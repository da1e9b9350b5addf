import GraphPath.Proofs.Client.Exchange
import GraphPath.Proofs.Json.Digits
import GraphPath.Proofs.Registry
import GraphPath.Proofs.Run
import GraphPath.Transport.Memory

/-!
# Correlation ids of exchanges

A caller sets and clears correlation ids, and has queries and programs exchanged in between. An
exchange runs under the id of the caller, if there is one, and otherwise under an id that is
made for it. What the caller has set is all that is set outside of exchanges: an id that was made
for an exchange is told to the transport in this exchange, and is seen nowhere else.

* `Watched` — a transport, with the ids that its exchanges were told;
* `Client.Call`, `Client.call` — what a caller does, and what it gives;
* `Client.callerId` — the id of the caller after some calls;
* `Client.ExchangedUnder` — what an exchange under an id shows;
* `Client.call_quiet`, `Client.call_exchange` — a call without an exchange, and one with it;
* `Client.correlation_last` — outside of exchanges the id is that of the caller;
* `Client.count_seen`, `Client.count_seen_made` — an id that is neither set nor made in a run is
  not told in it, and one that is made is told once;
* `Client.correlation_scoped` — any run of calls.
-/

namespace GraphPath

/-! ### A transport that is watched -/

/-- **A transport that is watched**: with the correlation ids that its exchanges were told. -/
structure Watched (σ : Type) where
  inner : σ
  seen : List (Option Text)

instance {σ : Type} [Transport σ] : Transport (Watched σ) where
  exchange watched id program :=
    let exchange := Transport.exchange watched.inner id program
    ⟨exchange.outcome, ⟨exchange.state, watched.seen ++ [id]⟩, exchange.records⟩
  close watched := ⟨Transport.close watched.inner, watched.seen⟩

@[simp] theorem Watched.seen_exchange {σ : Type} [Transport σ] (watched : Watched σ)
    (id : Option Text) (program : Text) :
    (Transport.exchange watched id program).state.seen = watched.seen ++ [id] := rfl

namespace Client

/-! ### What a caller does -/

/-- **What a caller does.** -/
inductive Call where
  | setCorrelation (id : Text)
  | clearCorrelation
  | find (expression : Value)
  | findRaw (program : Text)

/-- The id that is the caller's after a call. -/
def Call.idAfter (id : Option Text) : Call → Option Text
  | .setCorrelation own => some own
  | .clearCorrelation => none
  | .find _ | .findRaw _ => id

/-- **The id of the caller** after some calls: the last that was set, unless it was cleared. -/
def callerId (id : Option Text) (calls : List Call) : Option Text :=
  calls.foldl Call.idAfter id

variable {σ : Type}

/-- The program that a call has to send: that of a query as it compiles now, if it does, or the
program that is asked for. -/
def outgoing? (client : Client σ) : Call → Option Text
  | .find expression => (client.toGremlin expression).1.toOption
  | .findRaw program => some program
  | .setCorrelation _ | .clearCorrelation => none

/-- **A call**: its rows, if it asks for any, and the client after it. -/
def call [Transport σ] (client : Client σ) : Call → Option (Except ClientFault Rows) × Client σ
  | .setCorrelation id => (none, client.setCorrelation id)
  | .clearCorrelation => (none, client.clearCorrelation)
  | .find expression => (client.find expression).map some id
  | .findRaw program => (client.findRaw program).map some id

/-- **What an exchange under an id shows.** The transport is told the id, once. The records of the
transport are in the log; what was written before them is not under this id but under the one
that was set, and what was written behind them is under this id. -/
structure ExchangedUnder [Transport σ] (id program : Text) (before after : Client (Watched σ)) :
    Prop where
  told : after.transport.seen = before.transport.seen ++ [some id]
  delivered : after.transport = (Transport.exchange before.transport (some id) program).state
  log : ∃ compiled returned, after.log = before.log ++ compiled
      ++ (Transport.exchange before.transport (some id) program).records ++ returned ∧
    (∀ record ∈ compiled, record.correlation = before.correlation) ∧
    ∀ record ∈ returned, record.correlation = some id

/-- The next ids that are made, up to some number of them, differ from each other. -/
def FreshFor (client : Client σ) (number : Nat) : Prop :=
  ∀ i j, client.issued ≤ i → i < j → j < client.issued + number →
    client.freshId i ≠ client.freshId j

/-! ### What is written -/

/-- Compiling writes under the id that is set. -/
theorem log_toGremlin (client : Client σ) (expression : Value) :
    ∃ records, (client.toGremlin expression).2.log = client.log ++ records ∧
      ∀ record ∈ records, record.correlation = client.correlation := by
  unfold toGremlin compile
  cases client.registry.compile expression with
  | error fault => exact ⟨[], (List.append_nil _).symm, nofun⟩
  | ok wire =>
    simp only
    -- the record of the compiled query is there, whether it has a program or not
    cases wire.toGremlin <;> exact ⟨[_], rfl, by simp⟩

variable [Transport σ]

/-- What is written after the answer came in is under the id that is set. -/
theorem log_talk (client : Client σ) (program : Text) :
    ∃ records, (client.talk program).2.log = client.log
        ++ (Transport.exchange client.transport client.correlation program).records ++ records ∧
      ∀ record ∈ records, record.correlation = client.correlation := by
  -- the transport has written what it had to, and what is behind it is the record of the rows
  have hsend : client.send program =
      ((Transport.exchange client.transport client.correlation program).outcome,
        { client with
          transport := (Transport.exchange client.transport client.correlation program).state
          log := client.log
            ++ (Transport.exchange client.transport client.correlation program).records }) := rfl
  unfold talk
  rw [hsend]
  cases (Transport.exchange client.transport client.correlation program).outcome with
  | error fault => exact ⟨[], (List.append_nil _).symm, nofun⟩
  | ok body =>
    simp only
    cases Rows.ofResponse (.bytes body) (some program) with
    | error error => exact ⟨[], (List.append_nil _).symm, nofun⟩
    | ok rows => exact ⟨[_], rfl, by simp⟩

/-- **An exchange writes under its id**, behind the records of the transport. -/
theorem log_exchange (client : Client σ) (program : Text) :
    ∃ records, (client.exchange program).2.log
        = client.log ++ (client.delivery program).records ++ records ∧
      ∀ record ∈ records, record.correlation = some client.exchangeId := by
  obtain ⟨registry, transport, correlation, issued, freshId, log⟩ := client
  cases correlation with
  | some id => exact log_talk _ program
  | none =>
    -- an id is set for the exchange, and taking it back writes nothing
    exact log_talk (⟨registry, transport, some (freshId issued), issued + 1, freshId, log⟩ :
      Client σ) program

/-! ### One call -/

/-- **A call that sends nothing** changes the id as the caller asks, and nothing else apart from
the log. -/
theorem call_quiet {client : Client σ} {c : Call} (h : client.outgoing? c = none) :
    (client.call c).2.unlogged
        = { client.unlogged with correlation := c.idAfter client.correlation } ∧
      ∃ records, (client.call c).2.log = client.log ++ records ∧
        ∀ record ∈ records, record.correlation = client.correlation := by
  cases c with
  | setCorrelation id => exact ⟨rfl, [], (List.append_nil _).symm, nofun⟩
  | clearCorrelation => exact ⟨rfl, [], (List.append_nil _).symm, nofun⟩
  | findRaw program => cases h
  | find expression =>
    cases hprogram : (client.toGremlin expression).1 with
    | ok program =>
      rw [outgoing?, hprogram] at h
      cases h
    | error fault =>
      -- a query without a program ends before the exchange
      have hcall : (client.call (.find expression)).2 = (client.toGremlin expression).2 := by
        rw [call, find_of_no_program hprogram]
        rfl
      rw [hcall]
      exact ⟨client.unlogged_toGremlin expression, client.log_toGremlin expression⟩

/-- **A call that sends a program** is an exchange of this program, behind what compiling has
written. -/
theorem call_exchange {client : Client σ} {c : Call} {program : Text}
    (h : client.outgoing? c = some program) :
    ∃ ready : Client σ, ready.unlogged = client.unlogged ∧
      (client.call c).2 = (ready.exchange program).2 ∧
      ∃ records, ready.log = client.log ++ records ∧
        ∀ record ∈ records, record.correlation = client.correlation := by
  cases c with
  | setCorrelation id => cases h
  | clearCorrelation => cases h
  | findRaw asked =>
    obtain rfl : asked = program := Option.some.inj h
    exact ⟨client, rfl, rfl, [], (List.append_nil _).symm, nofun⟩
  | find expression =>
    cases hprogram : (client.toGremlin expression).1 with
    | error fault =>
      rw [outgoing?, hprogram] at h
      cases h
    | ok compiled =>
      obtain rfl : compiled = program := by
        rw [outgoing?, hprogram] at h
        exact Option.some.inj h
      -- compiling has left a client that differs in its log only
      refine ⟨(client.toGremlin expression).2, client.unlogged_toGremlin expression, ?_,
        client.log_toGremlin expression⟩
      rw [call, find]
      generalize client.toGremlin expression = result at hprogram ⊢
      obtain ⟨outcome, after⟩ := result
      subst hprogram
      rfl

/-- Apart from the log, such a call leaves a client whose transport has delivered the program. -/
theorem unlogged_call {client : Client σ} {c : Call} {program : Text}
    (h : client.outgoing? c = some program) :
    (client.call c).2.unlogged = { client.unlogged with
      transport := (client.delivery program).state, issued := client.issuedAfter } := by
  obtain ⟨ready, hready, hcall, -⟩ := call_exchange h
  rw [hcall, (exchange_congr hready program).2]
  exact (client.exchange_eq program).2

omit [Transport σ] in
/-- Only queries and programs are exchanged, and they are no calls that change the id. -/
theorem idAfter_of_outgoing {client : Client σ} {c : Call} {program : Text}
    (h : client.outgoing? c = some program) (id : Option Text) : c.idAfter id = id := by
  cases c with
  | setCorrelation own => cases h
  | clearCorrelation => cases h
  | find expression => rfl
  | findRaw asked => rfl

/-- **A call leaves the id of the caller.** -/
theorem correlation_call (client : Client σ) (c : Call) :
    (client.call c).2.correlation = c.idAfter client.correlation := by
  cases h : client.outgoing? c with
  | none => exact congrArg (·.correlation) (call_quiet h).1
  | some program =>
    have hsame : (client.call c).2.correlation = client.correlation :=
      congrArg (·.correlation) (unlogged_call h)
    rw [hsame, idAfter_of_outgoing h]

theorem freshId_call (client : Client σ) (c : Call) :
    (client.call c).2.freshId = client.freshId := by
  cases h : client.outgoing? c with
  | none => exact congrArg (·.freshId) (call_quiet h).1
  | some program => exact congrArg (·.freshId) (unlogged_call h)

/-- **A call makes at most one id.** -/
theorem issued_call (client : Client σ) (c : Call) :
    client.issued ≤ (client.call c).2.issued ∧
      (client.call c).2.issued ≤ client.issued + 1 := by
  cases h : client.outgoing? c with
  | none =>
    -- no id is made without an exchange
    have hsame : (client.call c).2.issued = client.issued :=
      congrArg (·.issued) (call_quiet h).1
    omega
  | some program =>
    have hafter : (client.call c).2.issued = client.issuedAfter :=
      congrArg (·.issued) (unlogged_call h)
    rw [hafter, issuedAfter]
    split <;> omega

/-- **An exchange without an id of the caller** runs under the next id that is made. -/
theorem made_call {client : Client σ} {c : Call} {program : Text}
    (h : client.outgoing? c = some program) (hnone : client.correlation = none) :
    client.exchangeId = client.freshId client.issued ∧
      (client.call c).2.issued = client.issued + 1 := by
  have hafter : (client.call c).2.issued = client.issuedAfter :=
    congrArg (·.issued) (unlogged_call h)
  -- both are what they are without an id of the caller
  rw [hafter, exchangeId, issuedAfter, hnone]
  exact ⟨rfl, rfl⟩

/-! ### Runs of calls -/

/-- **Outside of exchanges the id is that of the caller.** -/
theorem correlation_last (client : Client σ) (calls : List Call) :
    (Run.last call client calls).correlation = callerId client.correlation calls := by
  induction calls generalizing client with
  | nil => rfl
  | cons c rest ih =>
    rw [Run.last, ih, correlation_call]
    rfl

theorem freshId_last (client : Client σ) (calls : List Call) :
    (Run.last call client calls).freshId = client.freshId := by
  induction calls generalizing client with
  | nil => rfl
  | cons c rest ih => rw [Run.last, ih, freshId_call]

theorem issued_last (client : Client σ) (calls : List Call) :
    client.issued ≤ (Run.last call client calls).issued ∧
      (Run.last call client calls).issued ≤ client.issued + calls.length := by
  induction calls generalizing client with
  | nil => exact ⟨Nat.le_refl _, Nat.le_refl _⟩
  | cons c rest ih =>
    -- the first call makes at most one id, and so do the others, each of them
    have hcall := client.issued_call c
    have hrest := ih (client.call c).2
    rw [Run.last, List.length_cons]
    omega

/-- An id that the caller does not set is not the caller's. -/
theorem callerId_ne {id : Text} {own : Option Text} {calls : List Call} (hown : own ≠ some id)
    (hcalls : Call.setCorrelation id ∉ calls) : callerId own calls ≠ some id := by
  induction calls generalizing own with
  | nil => exact hown
  | cons c rest ih =>
    rw [List.mem_cons, not_or] at hcalls
    refine ih ?_ hcalls.2
    -- only setting an id and clearing it change what the caller has
    cases c with
    | setCorrelation other =>
      intro hsame
      exact hcalls.1 (congrArg Call.setCorrelation (Option.some.inj hsame).symm)
    | clearCorrelation => exact nofun
    | find expression => exact hown
    | findRaw program => exact hown

/-! ### Which ids are told -/

/-- What a call shows. -/
theorem exchangedUnder_call {client : Client (Watched σ)} {c : Call} {program : Text}
    (h : client.outgoing? c = some program) :
    ExchangedUnder client.exchangeId program client (client.call c).2 := by
  -- the exchange begins where compiling has stopped, which is the same apart from the log
  obtain ⟨ready, hready, hcall, compiled, hcompiled, hcorrelation⟩ := call_exchange h
  have hid : ready.exchangeId = client.exchangeId := by
    change ready.unlogged.exchangeId = client.unlogged.exchangeId
    rw [hready]
  have hdelivery : ready.delivery program = client.delivery program := by
    change ready.unlogged.delivery program = client.unlogged.delivery program
    rw [hready]
  have hdelivered : (client.call c).2.transport = (client.delivery program).state :=
    congrArg (·.transport) (unlogged_call h)
  obtain ⟨returned, hlog, hreturned⟩ := ready.log_exchange program
  -- a watched transport notes the id that it is called under
  have htold : (client.call c).2.transport.seen
      = client.transport.seen ++ [some client.exchangeId] := by
    rw [hdelivered, delivery, Watched.seen_exchange]
  refine ⟨htold, hdelivered, compiled, returned, ?_, hcorrelation, ?_⟩
  · rw [hcall, hlog, hcompiled, hdelivery]
    rfl
  · rw [← hid]
    exact hreturned

/-- **One call tells an id** at most if it is the caller's or made in this call. -/
theorem count_seen_call {client : Client (Watched σ)} {c : Call} {id : Text}
    (hcaller : client.correlation ≠ some id)
    (hmade : ∀ i, client.issued ≤ i → i < (client.call c).2.issued → client.freshId i ≠ id) :
    (client.call c).2.transport.seen.count (some id) = client.transport.seen.count (some id) := by
  cases h : client.outgoing? c with
  | none =>
    have hsame : (client.call c).2.transport = client.transport :=
      congrArg (·.transport) (call_quiet h).1
    rw [hsame]
  | some program =>
    have hne : client.exchangeId ≠ id := by
      -- the id is the caller's, or else the next one that is made
      cases hown : client.correlation with
      | some own =>
        intro hsame
        rw [exchangeId, hown, Option.getD_some] at hsame
        exact hcaller (hown.trans (congrArg some hsame))
      | none =>
        obtain ⟨hid, hissued⟩ := made_call h hown
        rw [hid]
        exact hmade client.issued (Nat.le_refl _) (by omega)
    have hother : List.count (some id) [some client.exchangeId] = 0 :=
      List.count_eq_zero.2 (by simpa using hne.symm)
    rw [(exchangedUnder_call h).told, List.count_append, hother, Nat.add_zero]

/-- **An id that is neither set nor made in a run is not told in it.** -/
theorem count_seen {client : Client (Watched σ)} {calls : List Call} {id : Text}
    (hcaller : client.correlation ≠ some id) (hcalls : Call.setCorrelation id ∉ calls)
    (hmade : ∀ i, client.issued ≤ i → i < (Run.last call client calls).issued →
      client.freshId i ≠ id) :
    (Run.last call client calls).transport.seen.count (some id)
      = client.transport.seen.count (some id) := by
  induction calls generalizing client with
  | nil => rfl
  | cons c rest ih =>
    rw [List.mem_cons, not_or] at hcalls
    have hfirst : (client.call c).2.transport.seen.count (some id)
        = client.transport.seen.count (some id) :=
      count_seen_call hcaller fun i hle hlt =>
        hmade i hle (Nat.lt_of_lt_of_le hlt (issued_last _ rest).1)
    -- the first call does not set the id, so the others do not start with it
    have hnext : (client.call c).2.correlation ≠ some id := by
      have hone : Call.setCorrelation id ∉ [c] := by simpa using hcalls.1
      rw [correlation_call]
      exact callerId_ne hcaller hone
    rw [Run.last, ih hnext hcalls.2 fun i hle hlt => ?_, hfirst]
    rw [freshId_call]
    exact hmade i (Nat.le_trans (client.issued_call c).1 hle) hlt

/-- **The id that an exchange makes is told once**, in this exchange, unless the caller sets it
too: the exchanges before it and after it are told others. -/
theorem count_seen_made {client : Client (Watched σ)} {earlier later : List Call} {c : Call}
    {program id : Text} (hfresh : client.FreshFor (earlier ++ c :: later).length)
    (hcaller : client.correlation ≠ some id)
    (hcalls : Call.setCorrelation id ∉ earlier ++ c :: later)
    (hprogram : (Run.last call client earlier).outgoing? c = some program)
    (hnone : (Run.last call client earlier).correlation = none)
    (hid : id = client.freshId (Run.last call client earlier).issued) :
    (Run.last call client (earlier ++ c :: later)).transport.seen.count (some id)
      = client.transport.seen.count (some id) + 1 := by
  rw [Run.last_append, Run.last]
  obtain ⟨hstart, hbefore⟩ := client.issued_last earlier
  have hids : (Run.last call client earlier).freshId = client.freshId := client.freshId_last earlier
  generalize hrun : Run.last call client earlier = before at *
  rw [List.mem_append, List.mem_cons, not_or, not_or] at hcalls
  obtain ⟨hearlier, -, hlater⟩ := hcalls
  obtain ⟨hmade, hissued⟩ := made_call hprogram hnone
  have hend := (issued_last (before.call c).2 later).2
  rw [List.length_append, List.length_cons] at hfresh
  -- ids that are made before have smaller numbers, and ids that are made behind have larger ones
  have hbehind : (Run.last call (before.call c).2 later).transport.seen.count (some id)
      = (before.call c).2.transport.seen.count (some id) := by
    refine count_seen ?_ hlater fun i hle hlt => ?_
    · rw [correlation_call, idAfter_of_outgoing hprogram, hnone]
      exact (Option.some_ne_none id).symm
    · rw [freshId_call, hids, hid]
      exact (hfresh before.issued i hstart (by omega) (by omega)).symm
  -- the exchanges before are told ids of smaller numbers
  have hfirst : before.transport.seen.count (some id)
      = client.transport.seen.count (some id) := by
    rw [← hrun]
    refine count_seen hcaller hearlier fun i hle hlt => ?_
    rw [hid]
    rw [hrun] at hlt
    exact hfresh i before.issued hle hlt (by omega)
  have htold : (before.call c).2.transport.seen = before.transport.seen ++ [some id] := by
    rw [(exchangedUnder_call hprogram).told, hmade, hids, hid]
  rw [hbehind, htold, List.count_append, hfirst, List.count_singleton_self]

/-! ### Any run -/

/-- **Correlation ids are scoped to exchanges.** Between the calls of any run the id is that of
the caller, so no query and no program changes it, whatever comes back. A call without an exchange
tells the transport nothing. An exchange runs under the id of the caller, if there is one, and
otherwise under the next id that is made; unless the caller sets this id too, it is the id of
no moment between calls, and no other exchange of the run is told it. -/
theorem correlation_scoped {client : Client (Watched σ)} {earlier later : List Call} {c : Call}
    (hfresh : client.FreshFor (earlier ++ c :: later).length) :
    let before := Run.last call client earlier
    let after := (before.call c).2
    before.correlation = callerId client.correlation earlier ∧
      (∀ rows, (before.call c).1 = some rows → after.correlation = before.correlation) ∧
      (before.outgoing? c = none → after.transport = before.transport ∧
        ∃ records, after.log = before.log ++ records ∧
          ∀ record ∈ records, record.correlation = before.correlation) ∧
      ∀ program, before.outgoing? c = some program →
        ∃ id, ExchangedUnder id program before after ∧
          (∀ own, before.correlation = some own → id = own) ∧
          (before.correlation = none → id = client.freshId before.issued ∧
            after.issued = before.issued + 1 ∧
            (client.correlation ≠ some id → Call.setCorrelation id ∉ earlier ++ c :: later →
              (∀ part, part <+: earlier ++ c :: later →
                (Run.last call client part).correlation ≠ some id) ∧
              (Run.last call client (earlier ++ c :: later)).transport.seen.count (some id)
                = client.transport.seen.count (some id) + 1)) := by
  intro before after
  have hids : before.freshId = client.freshId := client.freshId_last earlier
  refine ⟨client.correlation_last earlier, fun rows hrows => ?_, fun hquiet => ?_,
    fun program hprogram => ?_⟩
  · -- only queries and programs give rows
    rw [correlation_call]
    cases c with
    | setCorrelation id => cases hrows
    | clearCorrelation => cases hrows
    | find expression => rfl
    | findRaw program => rfl
  · obtain ⟨hsame, hlog⟩ := call_quiet hquiet
    exact ⟨congrArg (·.transport) hsame, hlog⟩
  · refine ⟨before.exchangeId, exchangedUnder_call hprogram, fun own hown => ?_,
      fun hnone => ?_⟩
    · rw [exchangeId, hown, Option.getD_some]
    · obtain ⟨hmade, hnext⟩ := made_call hprogram hnone
      have hid : before.exchangeId = client.freshId before.issued := by rw [hmade, hids]
      refine ⟨hid, hnext, fun hcaller hcalls => ⟨fun part hpart => ?_, ?_⟩⟩
      · rw [correlation_last]
        exact callerId_ne hcaller fun hmem => hcalls (hpart.subset hmem)
      · exact count_seen_made hfresh hcaller hcalls hprogram hnone hid

end Client

/-! ### A run with an id of the caller and ids of exchanges -/

namespace Sample

/-- A client over a transport that is watched. -/
def watched : Client (Watched Memory) := .ofTransport ⟨.empty, []⟩ Text.ofNat

/-- An id that is no number. -/
def own : Text := "own"

/-- A program under an id of the caller, an expression that is no query, and a program under an id
that is made for it. -/
def earlier : List Client.Call :=
  [.setCorrelation own, .findRaw "g.V()", .clearCorrelation, .find (.vertex nested),
    .findRaw "g.V().Out()"]

/-- The same again. -/
def later : List Client.Call := [.findRaw "g.V().Out()", .setCorrelation own, .findRaw "g.V()"]

/-- Numbers do not repeat. -/
theorem freshFor_watched (number : Nat) : watched.FreshFor number := fun _ _ _ hlt _ hsame =>
  Nat.ne_of_lt hlt (Text.ofNat_injective hsame)

theorem ofNat_ne_own (n : Nat) : Text.ofNat n ≠ own := by
  intro hsame
  have hmem : CodePoint.char 'o' ∈ Text.ofNat n := hsame ▸ List.mem_cons_self
  exact absurd (Text.isDigit_of_mem_ofNat hmem) (by decide)

end Sample

namespace Client

/-- Between the two halves of the sample a program is exchanged under an id that no other exchange
of the run is told, and no id is set after it. -/
theorem correlation_scoped_sample :
    let before := Run.last call Sample.watched Sample.earlier
    let after := (before.call (.findRaw "g.V().In()")).2
    after.correlation = none ∧ ∃ id, ExchangedUnder id "g.V().In()" before after ∧
      (Run.last call Sample.watched
        (Sample.earlier ++ .findRaw "g.V().In()" :: Sample.later)).transport.seen.count (some id)
          = 1 := by
  have hscoped := correlation_scoped
    (Sample.freshFor_watched (Sample.earlier ++ .findRaw "g.V().In()" :: Sample.later).length)
  -- the run itself is not evaluated
  dsimp only at hscoped ⊢
  generalize Run.last call Sample.watched Sample.earlier = before at hscoped ⊢
  obtain ⟨hbefore, hkept, -, hexchange⟩ := hscoped
  have hnone : before.correlation = none := hbefore
  obtain ⟨id, hunder, -, hmade⟩ := hexchange "g.V().In()" rfl
  obtain ⟨hid, -, honce⟩ := hmade hnone
  have hcalls : Call.setCorrelation id
      ∉ Sample.earlier ++ .findRaw "g.V().In()" :: Sample.later := by
    have hown : id ≠ Sample.own := hid ▸ Sample.ofNat_ne_own _
    simp [Sample.earlier, Sample.later, hown]
  exact ⟨(hkept _ rfl).trans hnone, id, hunder, (honce nofun hcalls).2⟩

end Client

end GraphPath
