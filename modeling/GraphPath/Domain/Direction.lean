import GraphPath.Domain.Mark

/-!
# Directions

Letters are written from left to right or from right to left. A label with anything that
runs from right to left has to read the same whatever stands around it. The tables tell
apart the code points that can stand in a label and no others.

* `Direction` — how a code point runs;
* `Direction.isConsistent` — whether code points of these directions can be a label.
-/

namespace GraphPath

/-- **A direction.** Numbers are written from left to right in any text; a neutral code
point and a mark take the direction of their neighbours. -/
inductive Direction where
  | leftToRight
  | rightToLeft
  | europeanNumber
  | arabicNumber
  | neutral
  | mark
deriving DecidableEq, Repr

/-- Letters that run from right to left. -/
private def rightToLeftRanges : List (Nat × Nat) := [
  (0x05D0, 0x05F4), (0x0620, 0x064A), (0x066E, 0x066F), (0x0671, 0x06D5), (0x06E5, 0x06E6),
  (0x06EE, 0x06EF), (0x06FA, 0x0710), (0x0712, 0x072F), (0x074D, 0x07A5), (0x07B1, 0x07EA),
  (0x07F4, 0x07F5), (0x0800, 0x0815), (0x081A, 0x081A), (0x0824, 0x0824), (0x0828, 0x0828),
  (0x0840, 0x0858), (0x0860, 0x088E), (0x08A0, 0x08C9), (0xFE73, 0xFE73), (0x10800, 0x10A00),
  (0x10A10, 0x10A35), (0x10A60, 0x10AE4), (0x10B00, 0x10D23), (0x10E80, 0x10EA9),
  (0x10EB0, 0x10F45), (0x10F70, 0x10F81), (0x10FB0, 0x10FF6), (0x1E800, 0x1E8C4),
  (0x1E922, 0x1E943), (0x1E94B, 0x1E959)]

/-- Neutral code points. -/
private def neutralRanges : List (Nat × Nat) := [
  (0x002D, 0x002D), (0x00B7, 0x00B7), (0x02B9, 0x02BA), (0x02C6, 0x02CF), (0x02EC, 0x02EC),
  (0x0375, 0x0375), (0x200C, 0x200D), (0x2E2F, 0x2E2F), (0x30FB, 0x30FB), (0xA67F, 0xA67F),
  (0xA717, 0xA71F), (0xA788, 0xA788)]

/-- **The direction of a code point.** -/
def CodePoint.direction (c : CodePoint) : Direction :=
  if inRanges [(0x0030, 0x0039), (0x06F0, 0x06F9)] c.toNat then .europeanNumber
  else if inRanges [(0x0660, 0x0669), (0x10D30, 0x10D39)] c.toNat then .arabicNumber
  else if inRanges neutralRanges c.toNat then .neutral
  else if c.isWeakMark then .mark
  else if inRanges rightToLeftRanges c.toNat then .rightToLeft
  else .leftToRight

namespace Direction

/-- Whether a direction matters for what stands around: letters from right to left, and
numbers that go with them. -/
def isTurning (d : Direction) : Bool := d = .rightToLeft || d = .arabicNumber

/-- **Consistent directions.** If nothing turns the direction, all is well. Else the first
code point runs from right to left and none from left to right, there are not both kinds of
numbers, and a letter or number is last but for marks. -/
def isConsistent (directions : List Direction) : Bool :=
  !directions.any isTurning ||
    (directions.head? == some .rightToLeft
      && !directions.contains .leftToRight
      && !(directions.contains .europeanNumber && directions.contains .arabicNumber)
      && (directions.reverse.find? (· != .mark)) != some .neutral)

end Direction

end GraphPath
