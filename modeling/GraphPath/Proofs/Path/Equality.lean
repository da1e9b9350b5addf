import GraphPath.Path.Equality

/-!
# Equality of values is transitive

Equality compares numbers of three kinds by what they are worth and looks into every other
value, so values that are equal to one value are equal to what that is equal to.

* `Value.amount?` — what a number is worth, on one scale for all kinds of numbers;
* `Value.same_iff_amount?` — numbers are equal if they are worth the same;
* `Value.same_trans`, `Value.sameItems_trans`, … — transitivity.
-/

namespace GraphPath.Value

/-! ### Numbers on one scale -/

/-- **What a number is worth**: a multiple of the least positive one, or an infinity. -/
inductive Amount where
  | finite (multiple : Int)
  | infinite (negative : Bool)
deriving DecidableEq

/-- What a floating-point number is worth, if it is a number. -/
def floatAmount? (x : Binary64) : Option Amount :=
  match x.reading with
  | .infinite negative => some (.infinite negative)
  | _ => x.scaled?.map .finite

/-- **What a value is worth**, if it is a number of some kind. -/
def amount? : Value → Option Amount
  | .bool b => some (.finite (Json.ofBool b * Binary64.leastPerOne))
  | .int n => some (.finite (n * Binary64.leastPerOne))
  | .float x => floatAmount? x
  | _ => none

/-- The values that are compared by what they are worth. -/
def isNumber : Value → Bool
  | .bool _ | .int _ | .float _ => true
  | _ => false

theorem floatAmount?_finite {x : Binary64} {m : Int} (h : x.scaled? = some m) :
    floatAmount? x = some (.finite m) := by
  unfold floatAmount?
  split
  · rename_i hreading
    rw [Binary64.scaled?, hreading] at h
    cases h
  · rw [h]
    rfl

theorem scaled?_of_floatAmount? {x : Binary64} {m : Int}
    (h : floatAmount? x = some (.finite m)) : x.scaled? = some m := by
  unfold floatAmount? at h
  split at h
  · cases h
  · obtain ⟨n, hn, hm⟩ := Option.map_eq_some_iff.1 h
    cases hm
    exact hn

/-- Floating-point numbers are equal if they are worth the same. -/
theorem sameFloat_iff {x y : Binary64} :
    x.same y ↔ ∃ w, floatAmount? x = some w ∧ floatAmount? y = some w := by
  have hscaled : ∀ z : Binary64, ∀ s m e n, z.reading = .finite s m e n →
      ∃ k, z.scaled? = some k := fun z s m e n hz => by
    rw [Binary64.scaled?, hz]
    exact ⟨_, rfl⟩
  have hinfinite : ∀ z : Binary64, ∀ s, z.reading = .infinite s →
      floatAmount? z = some (.infinite s) := fun z s hz => by rw [floatAmount?, hz]
  have hnone : ∀ z : Binary64, z.reading = .notANumber → floatAmount? z = none := fun z hz => by
    rw [floatAmount?, Binary64.scaled?, hz]
    rfl
  -- by what either of them reads as
  unfold Binary64.same
  cases hx : x.reading with
  | finite s m e n =>
    obtain ⟨k, hk⟩ := hscaled x s m e n hx
    rw [floatAmount?_finite hk, hk]
    cases hy : y.reading with
    | finite s' m' e' n' =>
      obtain ⟨k', hk'⟩ := hscaled y s' m' e' n' hy
      rw [floatAmount?_finite hk', hk']
      simp only [beq_iff_eq, Option.some.injEq, exists_eq_left', Amount.finite.injEq]
      exact eq_comm
    | infinite s' => simp [hinfinite y s' hy]
    | notANumber => simp [hnone y hy]
  | infinite s =>
    rw [hinfinite x s hx]
    cases hy : y.reading with
    | finite s' m' e' n' =>
      obtain ⟨k', hk'⟩ := hscaled y s' m' e' n' hy
      simp [floatAmount?_finite hk']
    | infinite s' =>
      simp only [hinfinite y s' hy, beq_iff_eq, Option.some.injEq, exists_eq_left',
        Amount.infinite.injEq]
      exact eq_comm
    | notANumber => simp [hnone y hy]
  | notANumber => simp [hnone x hx]

theorem sameInt_iff {x : Binary64} {n : Int} :
    x.sameInt n ↔ floatAmount? x = some (.finite (n * Binary64.leastPerOne)) := by
  rw [Binary64.sameInt, beq_iff_eq]
  exact ⟨floatAmount?_finite, scaled?_of_floatAmount?⟩

theorem leastPerOne_ne_zero : Binary64.leastPerOne ≠ 0 := by
  -- a power of two
  have hpos : ∀ q, 0 < twos q := fun q => Nat.pow_pos Nat.two_pos
  exact Int.ofNat_ne_zero.2 (Nat.ne_of_gt (hpos 1074))

theorem isNumber_of_amount? {value : Value} {w : Amount} (h : value.amount? = some w) :
    value.isNumber := by
  cases value <;> first | rfl | cases h

/-- Equality with a boolean or an integer. -/
theorem sameWorth_iff {n : Int} {b : Value} :
    (match b with
      | .float y => y.sameInt n
      | _ => b.worth? == some n) = true
      ↔ b.amount? = some (.finite (n * Binary64.leastPerOne)) := by
  cases b with
  | float y => exact sameInt_iff
  | bool | int =>
    simp [worth?, amount?, Int.mul_eq_mul_right_iff leastPerOne_ne_zero]
  | _ => simp [worth?, amount?]

/-- **Numbers are equal if they are worth the same.** -/
theorem same_iff_amount? {a b : Value} (ha : a.isNumber) :
    same a b ↔ ∃ w, a.amount? = some w ∧ b.amount? = some w := by
  -- booleans count as integers, and integers are compared with floats on the scale
  cases a with
  | bool p =>
    rw [same.eq_def]
    exact sameWorth_iff.trans ⟨fun h => ⟨_, rfl, h⟩, fun ⟨_, hw, h⟩ => h.trans hw.symm⟩
  | int n =>
    rw [same.eq_def]
    exact sameWorth_iff.trans ⟨fun h => ⟨_, rfl, h⟩, fun ⟨_, hw, h⟩ => h.trans hw.symm⟩
  | float x =>
    have hint : ∀ n, x.sameInt n ↔ ∃ w, floatAmount? x = some w ∧
        some (.finite (n * Binary64.leastPerOne)) = some w := fun n => by
      rw [sameInt_iff]
      exact ⟨fun h => ⟨_, h, rfl⟩, fun ⟨_, h, hw⟩ => hw ▸ h⟩
    cases b with
    | float y => exact sameFloat_iff
    | bool q => exact hint _
    | int n => exact hint n
    | _ => simp [same, worth?, amount?]
  | _ => cases ha

/-! ### Transitivity -/

theorem same_trans_of_isNumber {a b c : Value} (ha : a.isNumber) (hab : same a b)
    (hbc : same b c) : same a c := by
  -- what is equal to a number is a number, too
  obtain ⟨w, haw, hbw⟩ := (same_iff_amount? ha).1 hab
  obtain ⟨w', hbw', hcw⟩ := (same_iff_amount? (isNumber_of_amount? hbw)).1 hbc
  cases hbw.symm.trans hbw'
  exact (same_iff_amount? ha).2 ⟨w, haw, hcw⟩

/-- A field of fields that have equal ones among others. -/
theorem get?_of_sameFields {name : Text} {value : Value} {fields others : List (Text × Value)}
    (h : sameFields fields others) (hvalue : Fields.get? name fields = some value) :
    ∃ other, Fields.get? name others = some other ∧ same value other := by
  -- on the fields that are looked through, each with an equal one among the others
  induction fields with
  | nil => cases hvalue
  | cons field fields ih =>
    obtain ⟨present, first⟩ := field
    rw [sameFields, Bool.and_eq_true] at h
    rw [Fields.get?] at hvalue
    split at hvalue
    · rename_i hname
      cases hname
      cases hvalue
      split at h
      · exact ⟨_, ‹_›, h.1⟩
      · cases h.1
    · exact ih h.2 hvalue

mutual

/-- **Equality is transitive.** -/
theorem same_trans (a b c : Value) (hab : same a b) (hbc : same b c) : same a c := by
  -- numbers go by worth, and every other value is equal to values of its own kind only
  match a with
  | .bool _ | .int _ | .float _ => exact same_trans_of_isNumber rfl hab hbc
  | .null =>
    cases b with
    | null => exact hbc
    | _ => cases hab
  | .text t =>
    cases b with
    | text u =>
      obtain rfl : t = u := beq_iff_eq.1 hab
      exact hbc
    | _ => cases hab
  | .list items =>
    cases b with
    | list others =>
      cases c with
      | list third => exact sameItems_trans items others third hab hbc
      | _ => cases hbc
    | _ => cases hab
  | .tuple items =>
    cases b with
    | tuple others =>
      cases c with
      | tuple third => exact sameItems_trans items others third hab hbc
      | _ => cases hbc
    | _ => cases hab
  | .object fields =>
    cases b with
    | object others =>
      cases c with
      | object third =>
        rw [same, Bool.and_eq_true, beq_iff_eq] at hab hbc ⊢
        exact ⟨hab.1.trans hbc.1, sameFields_trans fields others third hab.2 hbc.2⟩
      | _ => cases hbc
    | _ => cases hab
  | .selector s =>
    cases b with
    | selector t =>
      obtain rfl : s = t := beq_iff_eq.1 hab
      exact hbc
    | _ => cases hab
  | .kind k =>
    cases b with
    | kind l =>
      obtain rfl : k = l := beq_iff_eq.1 hab
      exact hbc
    | _ => cases hab
  | .step s =>
    cases b with
    | step t =>
      cases c with
      | step u => exact sameStep_trans s t u hab hbc
      | _ => cases hbc
    | _ => cases hab
  | .morphismRef ⟨name, none⟩ =>
    cases b with
    | morphismRef r =>
      cases c with
      | morphismRef r' =>
        obtain ⟨other, _ | others⟩ := r
        · obtain ⟨last, _ | third⟩ := r'
          · exact same_trans name other last hab hbc
          · cases hbc
        · cases hab
      | _ => obtain ⟨_, _ | _⟩ := r <;> cases hbc
    | _ => cases hab
  | .morphismRef ⟨name, some steps⟩ =>
    cases b with
    | morphismRef r =>
      cases c with
      | morphismRef r' =>
        obtain ⟨other, _ | others⟩ := r
        · cases hab
        · obtain ⟨last, _ | third⟩ := r'
          · cases hbc
          · rw [same, Bool.and_eq_true] at hab hbc ⊢
            exact ⟨same_trans name other last hab.1 hbc.1,
              sameItems_trans steps others third hab.2 hbc.2⟩
      | _ => obtain ⟨_, _ | _⟩ := r <;> cases hbc
    | _ => cases hab
  | .path ⟨steps⟩ =>
    cases b with
    | path p =>
      obtain ⟨others⟩ := p
      cases c with
      | path q =>
        obtain ⟨third⟩ := q
        exact sameSteps_trans steps others third hab hbc
      | _ => cases hbc
    | _ => cases hab
  | .morphism ⟨name, steps⟩ =>
    cases b with
    | morphism m =>
      obtain ⟨other, others⟩ := m
      cases c with
      | morphism n =>
        obtain ⟨last, third⟩ := n
        rw [same, Bool.and_eq_true, beq_iff_eq] at hab hbc ⊢
        exact ⟨hab.1.trans hbc.1, sameSteps_trans steps others third hab.2 hbc.2⟩
      | _ => cases hbc
    | _ => cases hab
  | .vertex v =>
    cases b with
    | vertex w =>
      cases c with
      | vertex x => exact sameVertex_trans v w x hab hbc
      | _ => cases hbc
    | _ => cases hab
  | .query ⟨v, f⟩ =>
    cases b with
    | query q =>
      obtain ⟨w, g⟩ := q
      cases c with
      | query r =>
        obtain ⟨x, h⟩ := r
        rw [same, Bool.and_eq_true] at hab hbc ⊢
        exact ⟨sameVertex_trans v w x hab.1 hbc.1, sameFinal_trans f g h hab.2 hbc.2⟩
      | _ => cases hbc
    | _ => cases hab
  | .final f =>
    cases b with
    | final g =>
      cases c with
      | final h => exact sameFinal_trans f g h hab hbc
      | _ => cases hbc
    | _ => cases hab

theorem sameItems_trans (items others third : List Value) (hab : sameItems items others)
    (hbc : sameItems others third) : sameItems items third := by
  -- lists are equal item by item
  match items with
  | [] =>
    cases others with
    | nil => exact hbc
    | cons => cases hab
  | item :: items =>
    cases others with
    | nil => cases hab
    | cons other others =>
      cases third with
      | nil => cases hbc
      | cons last third =>
        rw [sameItems, Bool.and_eq_true] at hab hbc ⊢
        exact ⟨same_trans item other last hab.1 hbc.1,
          sameItems_trans items others third hab.2 hbc.2⟩

theorem sameFields_trans (fields others third : List (Text × Value))
    (hab : sameFields fields others) (hbc : sameFields others third) :
    sameFields fields third := by
  match fields with
  | [] => rfl
  | (name, value) :: fields =>
    rw [sameFields, Bool.and_eq_true] at hab ⊢
    refine ⟨?_, sameFields_trans fields others third hab.2 hbc⟩
    split at hab
    -- the field has an equal one among the others, and that has one in turn
    · rename_i other hother
      obtain ⟨last, hlast, hsame⟩ := get?_of_sameFields hbc hother
      rw [hlast]
      exact same_trans value other last hab.1 hsame
    · cases hab.1

theorem sameStep_trans (s t u : Step) (hab : sameStep s t) (hbc : sameStep t u) :
    sameStep s u := by
  match s with
  | ⟨k, operands⟩ =>
    obtain ⟨l, others⟩ := t
    rw [sameStep, Bool.and_eq_true, beq_iff_eq] at hab hbc ⊢
    -- of one kind, with equal operands
    exact ⟨hab.1.trans hbc.1, sameItems_trans operands others u.operands hab.2 hbc.2⟩

theorem sameSteps_trans (steps others third : List Step) (hab : sameSteps steps others)
    (hbc : sameSteps others third) : sameSteps steps third := by
  match steps with
  | [] =>
    cases others with
    | nil => exact hbc
    | cons => cases hab
  | s :: steps =>
    cases others with
    | nil => cases hab
    | cons other others =>
      cases third with
      | nil => cases hbc
      | cons last third =>
        rw [sameSteps, Bool.and_eq_true] at hab hbc ⊢
        exact ⟨sameStep_trans s other last hab.1 hbc.1,
          sameSteps_trans steps others third hab.2 hbc.2⟩

theorem sameVertex_trans (v w x : Vertex) (hab : sameVertex v w) (hbc : sameVertex w x) :
    sameVertex v x := by
  match v with
  | ⟨start, steps⟩ =>
    obtain ⟨other, others⟩ := w
    rw [sameVertex, Bool.and_eq_true, beq_iff_eq] at hab hbc ⊢
    exact ⟨hab.1.trans hbc.1, sameSteps_trans steps others x.steps hab.2 hbc.2⟩

theorem sameFinal_trans (f g h : Final) (hab : sameFinal f g) (hbc : sameFinal g h) :
    sameFinal f h := by
  match f with
  | .all =>
    cases g with
    | all => exact hbc
    | getLimit => cases hab
  | .getLimit limit =>
    cases g with
    | all => cases hab
    | getLimit other =>
      cases h with
      | all => cases hbc
      | getLimit last => exact same_trans limit other last hab hbc

end

end GraphPath.Value
