import GraphPath.Json.Reader

/-!
# Addresses

The host of a URL can be an address of version 4 or 6 of the internet protocol instead of
a name.

* `Host.looksLikeIpv4`, `Host.isIpv4` — four numbers below `256` with dots between them;
* `Host.isIpv6` — eight groups of hexadecimal digits, `::` standing for groups of zeros.
-/

namespace GraphPath

namespace Host

/-- **A host that is meant as an address of version 4**: four runs of digits with dots
between them. -/
def looksLikeIpv4 (host : Text) : Bool :=
  let runs := Text.splitOn (.char '.') host
  runs.length == 4 && runs.all fun run => !run.isEmpty && run.all Json.isDigit

/-- A number below `256` without a zero in front. -/
def isOctet (t : Text) : Bool :=
  !t.isEmpty && t.all Json.isDigit && t.length ≤ 3 && (t.head? != some (.char '0') || t.length == 1)
    && Json.ofDigits t ≤ 255

/-- **An address of version 4.** -/
def isIpv4 (host : Text) : Bool :=
  let octets := Text.splitOn (.char '.') host
  octets.length == 4 && octets.all isOctet

/-- A group of one to four hexadecimal digits. -/
def isGroup (t : Text) : Bool :=
  !t.isEmpty && t.length ≤ 4 && t.all fun c => (Json.hexDigit? c).isSome

/-- The groups at one side of `::`: none, or groups in full. -/
def sideSize? (groups : List Text) : Option Nat :=
  if groups = [[]] then some 0 else if groups.all isGroup then some groups.length else none

/-- The groups with an address of version 4 at the end written as two groups. -/
def withoutIpv4 (groups : List Text) : Option (List Text) :=
  match groups.getLast? with
  | some last =>
    if last.contains (.char '.') then
      if isIpv4 last then some (groups.dropLast ++ [[.char '0'], [.char '0']]) else none
    else some groups
  | none => some groups

/-- Whether groups are all eight, or fewer with one empty group between others. -/
def isComplete (groups : List Text) : Bool :=
  let inner := (groups.drop 1).dropLast
  if inner.contains [] then
    let hi := 1 + (inner.takeWhile (!·.isEmpty)).length
    -- the groups on either side stand in full, and at least one is left out
    match sideSize? (groups.take hi), sideSize? (groups.drop (hi + 1)) with
    | some before, some behind => before + behind < 8
    | _, _ => false
  else groups.length == 8 && groups.all isGroup

/-- Whether a zone behind a percent sign is missing or has a name. -/
def isZone (t : Text) : Bool := t.isEmpty || (1 < t.length && !(t.drop 1).contains (.char '%'))

/-- **An address of version 6**, perhaps with a zone. -/
def isIpv6 (address : Text) : Bool :=
  let (address, zone) := address.span (· != .char '%')
  -- an address of version 4 at the end counts as two groups
  isZone zone &&
    match withoutIpv4 (Text.splitOn (.char ':') address) with
    | some groups => isComplete groups
    | none => false

end Host

end GraphPath
