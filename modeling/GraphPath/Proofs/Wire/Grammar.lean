import GraphPath.Proofs.Wire.Derivation

/-!
# The grammar of wire queries

Which lists of wire steps a query can compile to. Every wire step is an object under one key,
the name of its kind, and its operand fits the kind. A sub-expression is the list of its wire
steps behind a head with its ids, the only place where a head stands; a followed name is a list
of wire steps; and the finalizer stands once, at the end of the outermost list.

* `Wire.Operand` — operands without wire steps, by kind;
* `Wire.Steps` — lists of wire steps without a finalizer;
* `Json.Within` — the lists at any depth, `Json.keysOfItems` — the keys at any depth;
* `WireQuery.Grammatical` — the wire queries of the grammar;
* `Compile.compile_grammatical` — what compiles is of the grammar.
-/

namespace GraphPath

namespace Wire

/-! ### Operands -/

/-- **A name** on the wire: a text that is not empty. -/
def IsName (json : Json) : Prop := ∃ t : Text, t ≠ [] ∧ json = .text t

/-- **Names** on the wire: a list of one or more. -/
def IsNames (json : Json) : Prop :=
  ∃ ts : List Text, ts ≠ [] ∧ (∀ t ∈ ts, t ≠ []) ∧ json = .array (ts.map .text)

/-- One name, or a list of names. -/
def IsNameOrNames (json : Json) : Prop := IsName json ∨ IsNames json

/-- **An operand that fits its kind** and holds no wire steps. -/
inductive Operand : StepKind → Json → Prop where
  -- traversals, along any predicate or along one, perhaps with tags
  | any {kind : StepKind} (hkind : kind.isTraversal) : Operand kind (.array [])
  | predicate {kind : StepKind} {predicate : Json} (hkind : kind.isTraversal)
    (hpredicate : IsName predicate) : Operand kind predicate
  | tagged {kind : StepKind} {predicate tags : Json} (hkind : kind.isTraversal)
    (hpredicate : predicate = .null ∨ IsName predicate) (htags : IsNameOrNames tags) :
    Operand kind (.array [predicate, tags])
  -- traversals along any of several predicates
  | predicates {kind : StepKind} {predicates : Json} (hkind : kind.isSetTraversal)
    (hpredicates : IsNames predicates) : Operand kind predicates
  | predicatesTagged {kind : StepKind} {predicates tags : Json} (hkind : kind.isSetTraversal)
    (hpredicates : IsNames predicates) (htags : IsNameOrNames tags) :
    Operand kind (.array [predicates, tags])
  -- filters and tags
  | is {nodes : Json} (hnodes : IsNameOrNames nodes) : Operand .is nodes
  | has {predicate nodes : Json} (hpredicate : IsName predicate) (hnodes : IsNameOrNames nodes) :
    Operand .has (.array [predicate, nodes])
  | tag {tags : Json} (htags : IsNameOrNames tags) : Operand .tag tags
  | back {tag : Json} (htag : IsName tag) : Operand .back tag
  | save {predicate tag : Json} (hpredicate : IsName predicate) (htag : IsName tag) :
    Operand .save (.array [predicate, tag])

/-! ### Wire steps -/

/-- **The list of a sub-expression**: a head with its ids, and wire steps behind it. -/
def headed (ids : List Text) (inner : List Json) : List Json :=
  .wireStep startOperation (.array (ids.map .text)) :: inner

/-- **Wire steps** without a finalizer. Each rule puts one in front. -/
inductive Steps : List Json → Prop where
  | nil : Steps []
  | plain {kind : StepKind} {operand : Json} {rest : List Json} (hoperand : Operand kind operand)
    (hrest : Steps rest) : Steps (.wireStep kind.name operand :: rest)
  -- a sub-expression is combined with, or its nodes are the predicates of a traversal
  | route {kind : StepKind} {ids : List Text} {inner rest : List Json}
    (hkind : kind.isTraversal ∨ kind.family = .combining) (hids : ∀ id ∈ ids, id ≠ [])
    (hinner : Steps inner) (hrest : Steps rest) :
    Steps (.wireStep kind.name (.array (headed ids inner)) :: rest)
  | routeTagged {kind : StepKind} {ids : List Text} {inner rest : List Json} {tags : Json}
    (hkind : kind.isTraversal) (hids : ∀ id ∈ ids, id ≠ []) (htags : IsNameOrNames tags)
    (hinner : Steps inner) (hrest : Steps rest) :
    Steps (.wireStep kind.name (.array [.array (headed ids inner), tags]) :: rest)
  -- a followed name is the list of what it stands for, without a head
  | follow {kind : StepKind} {inner rest : List Json} (hkind : kind.family = .following)
    (hinner : Steps inner) (hrest : Steps rest) :
    Steps (.wireStep kind.name (.array inner) :: rest)

/-- **A finalizer**: every result, or a positive number of them. -/
def IsFinalizer (json : Json) : Prop :=
  json = .wireStep allOperation (.array []) ∨
    ∃ n : Int, 0 < n ∧ json = .wireStep limitOperation (.int n)

/-- The keys of finalizers. -/
def isFinalizerKey (key : Text) : Bool := key == allOperation || key == limitOperation

end Wire

namespace Json

/-! ### Every depth -/

/-- **A list within a list**: the list itself, or one that is an item or the value of a field of
an item of a list within it. -/
inductive Within (top : List Json) : List Json → Prop where
  | top : Within top top
  | item {l inner : List Json} (hwithin : Within top l) (hitem : .array inner ∈ l) :
    Within top inner
  | field {l inner : List Json} {fields : List (Text × Json)} {name : Text}
    (hwithin : Within top l) (hobject : .object fields ∈ l)
    (hfield : (name, .array inner) ∈ fields) : Within top inner

mutual

/-- **The keys of a value** at any depth. -/
def keys : Json → List Text
  | .array items => keysOfItems items
  | .object fields => keysOfFields fields
  | .null | .bool _ | .int _ | .float _ | .text _ => []

/-- The keys of items at any depth. -/
def keysOfItems : List Json → List Text
  | [] => []
  | item :: items => keys item ++ keysOfItems items

/-- The keys of fields and of their values. -/
def keysOfFields : List (Text × Json) → List Text
  | [] => []
  | (name, value) :: fields => name :: (keys value ++ keysOfFields fields)

end

end Json

/-- **A wire query of the grammar.** -/
structure WireQuery.Grammatical (wire : WireQuery) : Prop where
  start : ∀ id ∈ wire.start, Wire.IsName id
  steps : ∃ steps last, wire.steps = steps ++ [last] ∧ Wire.Steps steps ∧ Wire.IsFinalizer last
  -- every object at any depth has one key, of which one in all is that of a finalizer
  keyed : ∀ l, Json.Within wire.steps l → ∀ fields, .object fields ∈ l →
    ∃ key operand, fields = [(key, operand)] ∧ (key = Wire.startOperation ∨
      Wire.isFinalizerKey key ∨ ∃ kind : StepKind, key = kind.name)
  finalized : (Json.keysOfItems wire.steps).countP Wire.isFinalizerKey = 1
  -- a head is the first item of an inner list, with wire steps behind it
  headed : ∀ l, Json.Within wire.steps l → ∀ operand, .wireStep Wire.startOperation operand ∈ l →
    l ≠ wire.steps ∧ ∃ ids inner, l = Wire.headed ids inner ∧ Wire.Steps inner

/-! ### Lists of the grammar -/

namespace Wire

/-- The names of kinds are apart from the other keys. -/
theorem kind_name_ne (kind : StepKind) :
    kind.name ≠ startOperation ∧ isFinalizerKey kind.name = false := by
  cases kind <;> exact ⟨by decide, rfl⟩

/-- Wire steps are objects under the names of their kinds. -/
theorem Steps.eq_wireStep {l : List Json} (h : Steps l) {w : Json} (hw : w ∈ l) :
    ∃ (kind : StepKind) (operand : Json), w = .wireStep kind.name operand := by
  induction h with
  | nil => cases hw
  | plain _ _ ih | route _ _ _ _ _ ih | routeTagged _ _ _ _ _ _ ih | follow _ _ _ _ ih =>
    rcases List.mem_cons.1 hw with rfl | hw
    · exact ⟨_, _, rfl⟩
    · exact ih hw

/-- **A part of an operand** that is a list of two: a name, a list of names, or the list of a
sub-expression, or nothing. -/
inductive Part : Json → Prop where
  | null : Part .null
  | name (t : Text) : Part (.text t)
  | names (ts : List Text) : Part (.array (ts.map .text))
  | route {ids : List Text} {inner : List Json} (hinner : Steps inner) :
    Part (.array (headed ids inner))

theorem IsName.part {json : Json} (h : IsName json) : Part json := by
  obtain ⟨t, -, rfl⟩ := h
  exact .name t

theorem IsNames.part {json : Json} (h : IsNames json) : Part json := by
  obtain ⟨ts, -, -, rfl⟩ := h
  exact .names ts

theorem IsNameOrNames.part {json : Json} (h : IsNameOrNames json) : Part json :=
  h.elim IsName.part IsNames.part

/-- **The lists of the grammar**: wire steps, the list of a sub-expression, names, and the two
parts of an operand. -/
inductive Listed : List Json → Prop where
  | steps {l : List Json} (h : Steps l) : Listed l
  | route {ids : List Text} {inner : List Json} (hinner : Steps inner) :
    Listed (headed ids inner)
  | names (ts : List Text) : Listed (ts.map .text)
  | pair {first second : Json} (hfirst : Part first) (hsecond : Part second) :
    Listed [first, second]

theorem Part.listed {inner : List Json} (h : Part (.array inner)) : Listed inner := by
  cases h with
  | names ts => exact .names ts
  | route hinner => exact .route hinner

/-- The list that an operand is. -/
theorem Operand.listed {kind : StepKind} {inner : List Json} (h : Operand kind (.array inner)) :
    Listed inner := by
  cases h with
  | any => exact .names []
  | predicate _ h => exact h.part.listed
  | tagged _ hpredicate htags =>
    have hfirst : Part _ := hpredicate.elim (fun h => h ▸ .null) IsName.part
    exact .pair hfirst htags.part
  | predicates _ h => exact h.part.listed
  | predicatesTagged _ hpredicates htags => exact .pair hpredicates.part htags.part
  | is h => exact h.part.listed
  | has hpredicate hnodes => exact .pair hpredicate.part hnodes.part
  | tag h => exact h.part.listed
  | back h => exact h.part.listed
  | save hpredicate htag => exact .pair hpredicate.part htag.part

/-- The list that the operand of a wire step is. -/
theorem Steps.listed_operand {l inner : List Json} {name : Text} (h : Steps l)
    (hw : .wireStep name (.array inner) ∈ l) : Listed inner := by
  induction h with
  | nil => cases hw
  | plain hoperand _ ih =>
    rcases List.mem_cons.1 hw with heq | hw
    · cases heq
      exact hoperand.listed
    · exact ih hw
  | route _ _ hinner _ _ ih =>
    rcases List.mem_cons.1 hw with heq | hw
    · cases heq
      exact .route hinner
    · exact ih hw
  | routeTagged _ _ htags hinner _ _ ih =>
    rcases List.mem_cons.1 hw with heq | hw
    · cases heq
      exact .pair (.route hinner) htags.part
    · exact ih hw
  | follow _ hinner _ _ ih =>
    rcases List.mem_cons.1 hw with heq | hw
    · cases heq
      exact .steps hinner
    · exact ih hw

/-- **The objects in a list of the grammar** have one key each: the name of a kind, or that of a
head, which is the first item and has wire steps behind it. -/
theorem Listed.object {l : List Json} {fields : List (Text × Json)} (h : Listed l)
    (hmem : .object fields ∈ l) :
    (∃ (kind : StepKind) (operand : Json), fields = [(kind.name, operand)]) ∨
      ∃ ids inner, fields = [(startOperation, .array (ids.map .text))] ∧ l = headed ids inner ∧
        Steps inner := by
  cases h with
  | steps h =>
    obtain ⟨kind, operand, heq⟩ := h.eq_wireStep hmem
    cases heq
    exact .inl ⟨kind, operand, rfl⟩
  | @route ids inner hinner =>
    rcases List.mem_cons.1 hmem with heq | hmem
    · cases heq
      -- the head itself, which is the one object that is not a wire step
      exact .inr ⟨ids, inner, rfl, rfl, hinner⟩
    · obtain ⟨kind, operand, heq⟩ := hinner.eq_wireStep hmem
      cases heq
      exact .inl ⟨kind, operand, rfl⟩
  | names ts => simp at hmem
  -- the parts of a pair are lists or texts
  | pair hfirst hsecond =>
    rcases List.mem_pair.1 hmem with rfl | rfl
    · cases hfirst
    · cases hsecond

/-- The lists in a list of the grammar are of the grammar. -/
theorem Listed.item {l inner : List Json} (h : Listed l) (hmem : .array inner ∈ l) :
    Listed inner := by
  cases h with
  | steps h =>
    obtain ⟨kind, operand, heq⟩ := h.eq_wireStep hmem
    cases heq
  | route hinner =>
    rcases List.mem_cons.1 hmem with heq | hmem
    · cases heq
    · obtain ⟨kind, operand, heq⟩ := hinner.eq_wireStep hmem
      cases heq
  | names ts => simp at hmem
  | pair hfirst hsecond =>
    rcases List.mem_pair.1 hmem with rfl | rfl
    · exact hfirst.listed
    · exact hsecond.listed

/-- And so are those in the fields of its objects. -/
theorem Listed.field {l inner : List Json} {fields : List (Text × Json)} {name : Text}
    (h : Listed l) (hmem : .object fields ∈ l) (hfield : (name, .array inner) ∈ fields) :
    Listed inner := by
  cases h with
  | steps h =>
    obtain ⟨kind, operand, heq⟩ := h.eq_wireStep hmem
    cases heq
    cases List.mem_singleton.1 hfield
    exact h.listed_operand hmem
  | @route ids rest hrest =>
    rcases List.mem_cons.1 hmem with heq | hmem
    · cases heq
      cases List.mem_singleton.1 hfield
      -- the field of the head has the ids of the start
      exact .names ids
    · obtain ⟨kind, operand, heq⟩ := hrest.eq_wireStep hmem
      cases heq
      cases List.mem_singleton.1 hfield
      exact hrest.listed_operand hmem
  | names ts => simp at hmem
  | pair hfirst hsecond =>
    rcases List.mem_pair.1 hmem with rfl | rfl
    · cases hfirst
    · cases hsecond

/-! ### Keys of the grammar -/

theorem IsName.keys {json : Json} (h : IsName json) : json.keys = [] := by
  obtain ⟨t, -, rfl⟩ := h
  rfl

theorem keysOfItems_texts (ts : List Text) : Json.keysOfItems (ts.map .text) = [] := by
  induction ts with
  | nil => rfl
  | cons t ts ih => rw [List.map_cons, Json.keysOfItems, ih, Json.keys, List.append_nil]

theorem IsNames.keys {json : Json} (h : IsNames json) : json.keys = [] := by
  obtain ⟨ts, -, -, rfl⟩ := h
  rw [Json.keys, keysOfItems_texts]

theorem IsNameOrNames.keys {json : Json} (h : IsNameOrNames json) : json.keys = [] :=
  h.elim IsName.keys IsNames.keys

/-- The keys of a list of two. -/
theorem keys_pair {first second : Json} :
    (Json.array [first, second]).keys = first.keys ++ second.keys := by
  simp [Json.keys, Json.keysOfItems]

/-- Operands without wire steps have no keys. -/
theorem Operand.keys {kind : StepKind} {operand : Json} (h : Operand kind operand) :
    operand.keys = [] := by
  cases h with
  | any => rfl
  | predicate _ h => exact h.keys
  | tagged _ hpredicate htags =>
    have hfirst : _ = [] := hpredicate.elim (fun h => h ▸ rfl) IsName.keys
    rw [keys_pair, hfirst, htags.keys, List.append_nil]
  | predicates _ h => exact h.keys
  | predicatesTagged _ hpredicates htags =>
    rw [keys_pair, hpredicates.keys, htags.keys, List.append_nil]
  | is h => exact h.keys
  | has hpredicate hnodes => rw [keys_pair, hpredicate.keys, hnodes.keys, List.append_nil]
  | tag h => exact h.keys
  | back h => exact h.keys
  | save hpredicate htag => rw [keys_pair, hpredicate.keys, htag.keys, List.append_nil]

theorem keys_wireStep (name : Text) (operand : Json) :
    (Json.wireStep name operand).keys = name :: operand.keys := by
  simp [Json.wireStep, Json.keys, Json.keysOfFields]

theorem keysOfItems_headed (ids : List Text) (inner : List Json) :
    Json.keysOfItems (headed ids inner) = startOperation :: Json.keysOfItems inner := by
  rw [headed, Json.keysOfItems, keys_wireStep, Json.keys, keysOfItems_texts]
  rfl

theorem keysOfItems_append (items others : List Json) :
    Json.keysOfItems (items ++ others) = Json.keysOfItems items ++ Json.keysOfItems others := by
  induction items with
  | nil => rfl
  | cons item items ih =>
    rw [List.cons_append, Json.keysOfItems, Json.keysOfItems, ih, List.append_assoc]

/-- **No key within wire steps is that of a finalizer.** -/
theorem Steps.countP_keys {l : List Json} (h : Steps l) :
    (Json.keysOfItems l).countP isFinalizerKey = 0 := by
  have hkind : ∀ kind : StepKind, isFinalizerKey kind.name = false :=
    fun kind => (kind_name_ne kind).2
  have hstart : isFinalizerKey startOperation = false := rfl
  induction h with
  | nil => rfl
  | plain hoperand _ ih =>
    simp [Json.keysOfItems, keys_wireStep, hoperand.keys, hkind, ih]
  | route _ _ _ _ ihInner ih =>
    simp [Json.keysOfItems, keys_wireStep, Json.keys, keysOfItems_headed, hkind, hstart, ihInner,
      ih]
  | routeTagged _ _ htags _ _ ihInner ih =>
    simp [Json.keysOfItems, keys_wireStep, Json.keys, keysOfItems_headed, htags.keys, hkind,
      hstart, ihInner, ih]
  | follow _ _ _ ihInner ih =>
    simp [Json.keysOfItems, keys_wireStep, Json.keys, hkind, ihInner, ih]

/-! ### Queries of the grammar -/

/-- A finalizer is an object under a key of its own, without lists in it but an empty one. -/
theorem IsFinalizer.eq_wireStep {last : Json} (h : IsFinalizer last) :
    ∃ name operand, last = .wireStep name operand ∧ isFinalizerKey name ∧ operand.keys = [] ∧
      ∀ inner, operand = .array inner → inner = [] := by
  obtain rfl | ⟨n, -, rfl⟩ := h
  · exact ⟨_, _, rfl, rfl, rfl, fun inner h => (Json.array.inj h).symm⟩
  · exact ⟨_, _, rfl, rfl, rfl, nofun⟩

/-- **The lists of a query** are its wire steps with the finalizer, and lists of the grammar. -/
theorem listed_of_within {steps l : List Json} {last : Json} (hsteps : Steps steps)
    (hlast : IsFinalizer last) (h : Json.Within (steps ++ [last]) l) :
    l = steps ++ [last] ∨ Listed l := by
  -- the finalizer is no wire step, so it is set apart at each way into the list
  obtain ⟨name, operand, rfl, -, -, hempty⟩ := hlast.eq_wireStep
  induction h with
  | top => exact .inl rfl
  | item _ hitem ih =>
    refine .inr ?_
    rcases ih with rfl | hlisted
    · rcases List.mem_append.1 hitem with hitem | hitem
      · exact (Listed.steps hsteps).item hitem
      · cases List.mem_singleton.1 hitem
    · exact hlisted.item hitem
  | field _ hobject hfield ih =>
    refine .inr ?_
    rcases ih with rfl | hlisted
    · rcases List.mem_append.1 hobject with hobject | hobject
      · exact (Listed.steps hsteps).field hobject hfield
      · cases List.mem_singleton.1 hobject
        cases List.mem_singleton.1 hfield
        -- the list of a finalizer is empty, and so a list of no names
        rw [hempty _ rfl]
        exact .names []
    · exact hlisted.field hobject hfield

end Wire

/-- **Wire steps with a finalizer behind them** are a query of the grammar. -/
theorem WireQuery.grammatical_of_steps {start : List Json} {steps : List Json} {last : Json}
    (hstart : ∀ id ∈ start, Wire.IsName id) (hsteps : Wire.Steps steps)
    (hlast : Wire.IsFinalizer last) : WireQuery.Grammatical ⟨start, steps ++ [last]⟩ := by
  obtain ⟨name, operand, hname, hkey, hkeys, -⟩ := hlast.eq_wireStep
  -- the objects of the outermost list
  have htop : ∀ fields, .object fields ∈ steps ++ [last] → ∃ key operand,
      fields = [(key, operand)] ∧
        (Wire.isFinalizerKey key ∨ ∃ kind : StepKind, key = kind.name) := by
    intro fields hmem
    rcases List.mem_append.1 hmem with hmem | hmem
    · obtain ⟨kind, operand, heq⟩ := hsteps.eq_wireStep hmem
      cases heq
      exact ⟨_, _, rfl, .inr ⟨kind, rfl⟩⟩
    · cases (List.mem_singleton.1 hmem).trans hname
      exact ⟨_, _, rfl, .inl hkey⟩
  have hheadless : ∀ operand, .wireStep Wire.startOperation operand ∉ steps ++ [last] := by
    intro operand hmem
    obtain ⟨key, _, hfields, hkey⟩ := htop _ hmem
    obtain rfl : Wire.startOperation = key := congrArg Prod.fst (List.cons.inj hfields).1
    rcases hkey with hkey | ⟨kind, hkind⟩
    · cases hkey
    · exact (Wire.kind_name_ne kind).1 hkind.symm
  refine ⟨hstart, ⟨steps, last, rfl, hsteps, hlast⟩, fun l hl fields hmem => ?_, ?_,
    fun l hl operand hmem => ?_⟩
  · rcases Wire.listed_of_within hsteps hlast hl with rfl | hlisted
    · obtain ⟨key, operand, hfields, hkey⟩ := htop fields hmem
      exact ⟨key, operand, hfields, .inr hkey⟩
    · rcases hlisted.object hmem with ⟨kind, operand, rfl⟩ | ⟨ids, inner, rfl, -, -⟩
      · exact ⟨_, _, rfl, .inr (.inr ⟨kind, rfl⟩)⟩
      · exact ⟨_, _, rfl, .inl rfl⟩
  · rw [Wire.keysOfItems_append, List.countP_append, hsteps.countP_keys, hname,
      Json.keysOfItems, Wire.keys_wireStep, hkeys]
    simp [Json.keysOfItems, hkey]
  · have hne : l ≠ steps ++ [last] := fun heq => hheadless operand (heq ▸ hmem)
    refine ⟨hne, ?_⟩
    rcases (Wire.listed_of_within hsteps hlast hl).resolve_left hne |>.object hmem with
      ⟨kind, _, hfields⟩ | ⟨ids, inner, -, hlist, hinner⟩
    · have hkind : Wire.startOperation = kind.name := congrArg Prod.fst (List.cons.inj hfields).1
      exact absurd hkind.symm (Wire.kind_name_ne kind).1
    · exact ⟨ids, inner, hlist, hinner⟩

/-! ### What compiles -/

namespace Wire

theorem isName_text (name : Name) : IsName (.text name.text) := ⟨name.text, name.nonempty, rfl⟩

theorem isNames_texts (names : Names) : IsNames (.array (names.texts.map .text)) := by
  refine ⟨names.texts, ?_, fun t ht => ?_, rfl⟩
  · simpa [Names.texts] using names.nonempty
  · obtain ⟨name, -, rfl⟩ := List.mem_map.1 ht
    exact name.nonempty

theorem isNameOrNames_nodes {nodes : NodeSelector} (h : nodes ≠ .any) :
    IsNameOrNames (Value.selector (.nodes nodes)).encoded := by
  cases nodes with
  | any => exact absurd rfl h
  | one id => exact .inl (isName_text id)
  | many ids => exact .inr (isNames_texts ids)

theorem isNameOrNames_tags (tags : TagSelector) :
    IsNameOrNames (Value.selector (.tags tags)).encoded := by
  cases tags with
  | one tag => exact .inl (isName_text tag)
  | many tags => exact .inr (isNames_texts tags)

/-- The ids of a start are names. -/
theorem ids_ne_nil (start : NodeSelector) : ∀ id ∈ start.ids, id ≠ [] := by
  intro id hid
  cases start with
  | any => cases hid
  | one name =>
    rw [List.mem_singleton.1 hid]
    exact name.nonempty
  | many names =>
    obtain ⟨name, -, rfl⟩ := List.mem_map.1 hid
    exact name.nonempty

/-- **The operand of a plain step fits its kind.** -/
theorem operand_of_plain {s : Step} (h : s.Plain) : Operand s.kind
    (Compile.collapse (Compile.dropOmitted (s.operands.map Value.encoded))) := by
  cases h with
  | traverse hkind predicate tags =>
    -- without tags an omitted predicate is an omitted operand; with tags it stays, as null
    rcases predicate with _ | predicate <;> rcases tags with _ | tags
    · exact .any hkind
    · rw [List.map_cons, List.map_cons, List.map_nil, Compile.dropOmitted_tags]
      exact .tagged hkind (.inl rfl) (isNameOrNames_tags tags)
    · exact .predicate hkind (isName_text predicate)
    · rw [List.map_cons, List.map_cons, List.map_nil, Compile.dropOmitted_tags]
      exact .tagged hkind (.inr (isName_text predicate)) (isNameOrNames_tags tags)
  | traverseSet hkind predicates tags =>
    -- predicates are never omitted, so only the tags can be missing
    rcases tags with _ | tags
    · exact .predicates hkind (isNames_texts predicates)
    · rw [List.map_cons, List.map_cons, List.map_nil, Compile.dropOmitted_tags]
      exact .predicatesTagged hkind (isNames_texts predicates) (isNameOrNames_tags tags)
  | isNodes hnodes =>
    rw [List.map_cons, List.map_nil, Compile.dropOmitted_single (Value.encoded_nodes_ne hnodes)]
    exact .is (isNameOrNames_nodes hnodes)
  | has predicate hnodes =>
    rw [List.map_cons, List.map_cons, List.map_nil,
      Compile.dropOmitted_two (Value.encoded_nodes_ne hnodes)]
    exact .has (isName_text predicate) (isNameOrNames_nodes hnodes)
  | tag tags =>
    rw [List.map_cons, List.map_nil, Compile.dropOmitted_single (Value.encoded_tags_ne tags)]
    exact .tag (isNameOrNames_tags tags)
  | back tag => exact .back (isName_text tag)
  | save predicate tag => exact .save (isName_text predicate) (isName_text tag)

/-- **Derived wire steps are of the grammar.** -/
theorem steps_of_derives {registry : Registry} {depth : Nat} {l : List Step} {wires : List Json}
    (h : Derives registry depth l wires) : Steps wires := by
  -- the constructors of the derivation are those of the grammar, and the depth plays no part
  induction h with
  | nil => exact .nil
  | plain hplain _ ih => exact .plain (operand_of_plain hplain) ih
  | @through depth kind v rest inner wires hkind tags _ _ ihSteps ih =>
    rw [Step.throughWire, Compile.dropOmitted_array]
    rcases tags with _ | tags
    · -- tags that are missing leave the route alone in its operand
      exact .route (.inl hkind) (ids_ne_nil v.start) ihSteps ih
    · rw [Value.ofTags?, Compile.dropOmitted_single (Value.encoded_tags_ne tags)]
      exact .routeTagged hkind (ids_ne_nil v.start) (isNameOrNames_tags tags) ihSteps ih
  | @combine depth kind v rest inner wires hkind _ _ ihSteps ih =>
    exact .route (.inr hkind) (ids_ne_nil v.start) ihSteps ih
  | follow hkind _ _ _ _ ihInner ih => exact .follow hkind ihInner ih

end Wire

/-- **What compiles is of the grammar.** -/
theorem Compile.compile_grammatical {registry : Registry} {q : Query} {wire : WireQuery}
    (hregistry : registry.Built) (hquery : (Value.query q).Built)
    (h : registry.compile (.query q) = .ok wire) : wire.Grammatical := by
  obtain ⟨wires, last, hderives, hlast, rfl⟩ := query_ok hregistry hquery h
  refine WireQuery.grammatical_of_steps (fun id hid => ?_) (Wire.steps_of_derives hderives) ?_
  · obtain ⟨t, ht, rfl⟩ := List.mem_map.1 hid
    exact ⟨t, Wire.ids_ne_nil q.vertex.start t ht, rfl⟩
  · obtain ⟨-, rfl⟩ | ⟨n, hpos, -, rfl⟩ := final_ok hlast
    · exact .inl rfl
    · exact .inr ⟨n, Int.natCast_pos.2 hpos, rfl⟩

/-- The sample compiles to a query of the grammar. -/
theorem Compile.compile_grammatical_sample : ∃ wire : WireQuery,
    Sample.registry.compile (.query Sample.query) = .ok wire ∧ wire.steps.length = 4 ∧
      wire.Grammatical :=
  ⟨_, rfl, rfl, compile_grammatical Sample.registry_built Sample.query_built rfl⟩

end GraphPath
