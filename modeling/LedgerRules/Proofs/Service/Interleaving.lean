import LedgerRules.Proofs.Service.Failing

/-!
# Requests for drafted rules at the same time

A request for drafted rules reads the accounts and the rules, reads the rules
again, and then stores its drafts, all of them or none.  Other requests may be
answered between these steps.  Whatever the order, no two rules that detect
accounts ever set the same one, and a request tells the truth about what it
inserted.
-/

namespace LedgerRules

namespace Service

open Store (Tabled Fills)

/-- How far a request for drafted rules has come. -/
inductive Drafting where
  | begun
  | surveyed (needy : List Account)
  | drafted (drafts : List RuleDraft)
  | answered (drafts : List RuleDraft) (result : Except StoreFault Response)

/-- The next step of a request for drafted rules: the first reading, the second
reading of the rules, or the answer. -/
def Drafting.advance (settings : Settings) (store : Store) :
    Drafting → Drafting × Store
  | .begun =>
      match Coverage.survey settings.excludedTypes
        (store.activeAccounts.map AccountRow.account)
          (coveringRules store) with
      | .ok needy => (.surveyed needy, store)
      | .error _ => (.answered [] (.error .notAnObject), store)
  | .surveyed needy =>
      match Coverage.recheck (coveringRules store) needy with
      | .ok needy =>
        (.drafted (needy.map (Coverage.draft settings.detectionPriority)),
        store)
      | .error _ => (.answered [] (.error .notAnObject), store)
  | .drafted drafts =>
      let outcome := storeDrafts drafts store
      (.answered drafts outcome.result, outcome.store)
  | .answered drafts result => (.answered drafts result, store)

/-- Three steps with nothing in between answer a request for drafted rules. -/
theorem advance_thrice (settings : Settings) (store : Store) :
    ∃ drafts, (fun state => Drafting.advance settings state.2 state.1)^[3]
      (.begun, store) =
      (.answered drafts (createDraftedUnder settings store).result,
        (createDraftedUnder settings store).store) := by
  simp only [Function.iterate_succ, Function.iterate_zero, Function.comp_apply,
    id, createDraftedUnder, draftRules_eq, Coverage.drafts_eq]
  cases surveyed : Coverage.survey settings.excludedTypes
      (store.activeAccounts.map AccountRow.account) (coveringRules store) with
  | error fault =>
      simp only [Drafting.advance, surveyed, bind, Except.bind, Except.mapError]
      exact ⟨[], rfl⟩
  | ok needy =>
      cases rechecked : Coverage.recheck (coveringRules store) needy with
      | error fault =>
          simp only [Drafting.advance, surveyed, rechecked, bind, Except.bind,
            Except.mapError]
          exact ⟨[], rfl⟩
      | ok left =>
          simp only [Drafting.advance, surveyed, rechecked, bind, Except.bind,
            pure, Except.pure, Except.mapError]
          exact ⟨left.map (Coverage.draft settings.detectionPriority), rfl⟩

/-- The rows that a request for drafted rules inserted, as far as it has come:
none before it is answered, all of its drafts when it tells how many it created,
and none otherwise. -/
inductive Drafting.Inserted : Drafting → List RuleRow → Prop where
  | begun : Inserted .begun []
  | surveyed (needy : List Account) : Inserted (.surveyed needy) []
  | drafted {drafts : List RuleDraft}
      (sets : ∀ draft ∈ drafts, SetsText draft.actions) :
      Inserted (.drafted drafts) []
  | refused (drafts : List RuleDraft) {result : Except StoreFault Response}
      (silent : ∀ response, result = .ok response → response.created? = none) :
      Inserted (.answered drafts result) []
  | stored {drafts : List RuleDraft} {rows : List RuleRow}
      {result : Except StoreFault Response}
      (filled : List.Forall₂ Fills (drafts.map RuleSession.ofDraft) rows)
      (told : ∀ response, result = .ok response →
        response.created? = some (drafts.length : Int) ∧
        response.status < failureStatus) :
      Inserted (.answered drafts result) rows

/-- The rows behind those of another store. -/
def gained (store after : Store) : List RuleRow :=
  after.rules.drop store.rules.length

theorem gained_eq {store after : Store} {rows : List RuleRow}
    (appended : after.rules = store.rules ++ rows) :
    gained store after = rows := by
  rw [gained, appended, List.drop_left]

theorem inserted_storeDrafts {drafts : List RuleDraft}
    (sets : ∀ draft ∈ drafts, SetsText draft.actions) (store : Store) :
    ∃ rows, GrownBy rows store (storeDrafts drafts store).store ∧
      Drafting.Inserted (.answered drafts (storeDrafts drafts store).result)
        rows := by
  have stored := stored_storeDrafts drafts store
  generalize storeDrafts drafts store = outcome at stored
  cases stored with
  | nothing none =>
      refine ⟨[], grownBy_nil rfl, ?_⟩
      rw [none]
      apply Drafting.Inserted.stored .nil
      rintro response ⟨⟩
      exact ⟨rfl, by decide⟩
  | conflicting =>
      refine ⟨[], grownBy_nil rfl, .refused drafts ?_⟩
      rintro response ⟨⟩
      rfl
  | failed => exact ⟨[], grownBy_nil rfl, .refused drafts nofun⟩
  | @inserted rows after inserting =>
      have filled := (Store.insertedRules_of_insertRules inserting).filled
      have length : rows.length = drafts.length := by
        rw [← filled.length_eq, List.length_map]
      refine ⟨rows, ⟨inserting, yields_ofDraft sets, rfl⟩, .stored filled ?_⟩
      intro response answered
      obtain ⟨shown, _, answered⟩ := bind_eq_ok_iff.mp answered
      cases answered
      rw [← length]
      exact ⟨rfl, (by decide : 201 < 400)⟩

theorem inserted_advance (settings : Settings) (store : Store)
    {stage : Drafting} {rows : List RuleRow} (inserted : stage.Inserted rows) :
    ∃ more, GrownBy more store (stage.advance settings store).2 ∧
      (stage.advance settings store).1.Inserted (rows ++ more) := by
  cases inserted with
  | begun =>
      simp only [Drafting.advance]
      split
      · exact ⟨[], grownBy_nil rfl, .surveyed _⟩
      · exact ⟨[], grownBy_nil rfl, .refused [] nofun⟩
  | surveyed needy =>
      simp only [Drafting.advance]
      split
      · exact ⟨[], grownBy_nil rfl,
          .drafted (setsText_drafts settings.detectionPriority _)⟩
      · exact ⟨[], grownBy_nil rfl, .refused [] nofun⟩
  | drafted sets => exact inserted_storeDrafts sets store
  | refused drafts silent => exact ⟨[], grownBy_nil rfl, .refused drafts silent⟩
  | stored filled told =>
      refine ⟨[], grownBy_nil rfl, ?_⟩
      rw [List.append_nil]
      exact .stored filled told

/-- A step of one of many requests for drafted rules, another request from its
start to its answer, or a change of everything but the rules. -/
inductive Event where
  | advance (call : Nat)
  | request (request : Request)
  | elsewhere (other : Store)

/-- A store on which requests for drafted rules run, how far each of them has
come, and who inserted which rows, in order. -/
structure World where
  store : Store
  calls : Nat → Drafting := fun _ => .begun
  log : List (Option Nat × List RuleRow) := []

namespace World

/-- The rows that a request inserted. -/
def insertedBy (call : Nat) (world : World) : List RuleRow :=
  (world.log.filter fun entry => entry.1 = some call).flatMap Prod.snd

def step (settings : Settings) (world : World) : Event → World
  | .advance call =>
      let (stage, store) := (world.calls call).advance settings world.store
      { store
        calls := Function.update world.calls call stage
        log := world.log ++ [(some call, gained world.store store)] }
  | .request request =>
      let store := (respond request world.store).store
      { world with store, log := world.log ++
        [(none, gained world.store store)] }
  | .elsewhere other =>
      { world with store := { other with rules := world.store.rules } }

def run (settings : Settings) (events : List Event) (world : World) : World :=
  events.foldl (step settings) world

/-- What holds of a world at any time: the table of rules is the one at the
start followed by what was inserted, and every request inserted what its stage
says. -/
structure Sound (origin : Store) (world : World) : Prop where
  tabled : Tabled RuleRow.Mirrors world.store
  table : world.store.rules = origin.rules ++ world.log.flatMap Prod.snd
  calls : ∀ call, (world.calls call).Inserted (world.insertedBy call)

section Runs

variable {settings : Settings} {origin : Store} {world : World}

theorem sound_start (tabled : Tabled RuleRow.Mirrors origin) :
    Sound origin { store := origin } where
  tabled := tabled
  table := (List.append_nil _).symm
  calls _ := .begun

theorem table_append {after : Store} {rows : List RuleRow} (writer : Option Nat)
    (sound : Sound origin world) (grown : GrownBy rows world.store after) :
    after.rules = origin.rules ++
      (world.log ++ [(writer, gained world.store after)]).flatMap Prod.snd := by
  rw [gained_eq grown.rules_eq, grown.rules_eq, sound.table,
    List.flatMap_append, List.flatMap_singleton, List.append_assoc]

theorem insertedBy_append (call : Nat) (writer : Option Nat)
    (rows : List RuleRow) (store : Store) (calls : Nat → Drafting) :
    insertedBy call ⟨store, calls, world.log ++ [(writer, rows)]⟩ =
      world.insertedBy call ++ if writer = some call then rows else [] := by
  simp only [insertedBy, List.filter_append, List.flatMap_append]
  by_cases own : writer = some call <;> simp [own]

theorem sound_advance (sound : Sound origin world) (call : Nat) :
    Sound origin (world.step settings (.advance call)) := by
  obtain ⟨rows, grown, inserted⟩ := inserted_advance settings world.store
    (sound.calls call)
  refine ⟨grown.tabled sound.tabled, table_append (some call) sound grown, ?_⟩
  intro other
  simp only [step]
  rw [insertedBy_append, gained_eq grown.rules_eq]
  by_cases own : call = other
  · subst own
    rw [Function.update_self, if_pos rfl]
    exact inserted
  · rw [Function.update_of_ne (Ne.symm own),
      if_neg (fun same => own (Option.some.inj same)), List.append_nil]
    exact sound.calls other

theorem sound_request (sound : Sound origin world) (request : Request) :
    Sound origin (world.step settings (.request request)) := by
  obtain ⟨rows, grown⟩ := grownBy_respond request world.store
  refine ⟨grown.tabled sound.tabled, table_append none sound grown, ?_⟩
  intro call
  simp only [step]
  rw [insertedBy_append, if_neg nofun, List.append_nil]
  exact sound.calls call

theorem sound_step (sound : Sound origin world) (event : Event) :
    Sound origin (world.step settings event) := by
  cases event with
  | advance call => exact sound_advance sound call
  | request request => exact sound_request sound request
  | elsewhere other => exact ⟨sound.tabled.congr rfl, sound.table, sound.calls⟩

theorem sound_run (sound : Sound origin world) (events : List Event) :
    Sound origin (world.run settings events) := by
  induction events generalizing world with
  | nil => exact sound
  | cons event rest induction => exact induction (sound_step sound event)

/-- Whatever the order in which requests for drafted rules and other requests go
on, no two rules that detect accounts set the same one.  A request for drafted
rules that tells how many rules it created inserted its drafts, each of them and
nothing else, and one that is told of a conflict inserted nothing. -/
theorem apart_and_told_of_run (settings : Settings)
    (tabled : Tabled RuleRow.Mirrors origin) (events : List Event) :
    let world := World.run settings events { store := origin }
    (world.store.rules.Pairwise fun left right =>
      ¬ RuleSession.SetSame left right) ∧
      world.store.rules = origin.rules ++ world.log.flatMap Prod.snd ∧
      ∀ call drafts response,
        world.calls call = .answered drafts (.ok response) →
        (∀ count, response.created? = some count → count = drafts.length ∧
            List.Forall₂ Fills (drafts.map RuleSession.ofDraft)
              (world.insertedBy call)) ∧
          (response.status = 409 → world.insertedBy call = []) := by
  intro world
  have sound : Sound origin world := sound_run (sound_start tabled) events
  refine ⟨?_, sound.table, ?_⟩
  · refine sound.tabled.compatible.imp_of_mem ?_
    intro left right memberLeft memberRight compatible
    exact RuleSession.not_setSame_of_mirrors (sound.tabled.rows left memberLeft)
      (sound.tabled.rows right memberRight) compatible.apart
  · intro call drafts response answered
    have inserted := sound.calls call
    rw [answered] at inserted
    generalize world.insertedBy call = rows at inserted ⊢
    cases inserted with
    | refused _ silent =>
        refine ⟨?_, fun _ => rfl⟩
        intro count counted
        rw [silent response rfl] at counted
        cases counted
    | stored filled told =>
        obtain ⟨created, success⟩ := told response rfl
        constructor
        · intro count counted
          rw [created] at counted
          exact ⟨(Option.some.inj counted).symm, filled⟩
        · intro conflict
          rw [conflict] at success
          exact absurd success (by decide)

end Runs

/-- Two requests draft a rule for the same account.  The first one stores its
draft, then a rule for the account is requested, and then the second one comes
to store its draft. -/
def racing : List Event :=
  [.advance 0, .advance 1, .advance 0, .advance 1, .advance 0,
    .request walletRule, .advance 1]

def raced : World :=
  World.run {} racing { store := banked }

/-- The status and the number of created rules that a request for drafted rules
was answered with. -/
def told? : Drafting → Option (Nat × Option Int)
  | .answered _ (.ok response) => some (response.status, response.created?)
  | _ => none

theorem answered_of_told? {stage : Drafting} {status : Nat}
    {count? : Option Int} (told : told? stage = some (status, count?)) :
    ∃ drafts response, stage = .answered drafts (.ok response) ∧
      response.status = status ∧
      response.created? = count? := by
  unfold told? at told
  split at told
  case h_1 drafts response =>
    obtain ⟨sameStatus, sameCount⟩ := Prod.mk.inj (Option.some.inj told)
    exact ⟨drafts, response, rfl, sameStatus, sameCount⟩
  case h_2 => cases told

theorem apart_and_told_of_run_racing :
    Tabled RuleRow.Mirrors banked ∧ told? (raced.calls 0) = some (201, some 1) ∧
      told? (raced.calls 1) = some (409, none) ∧
      (raced.store.rules.Pairwise fun left right =>
        ¬ RuleSession.SetSame left right) ∧
      (∃ drafts : List RuleDraft, drafts.length = 1 ∧
        List.Forall₂ Fills (drafts.map RuleSession.ofDraft)
          (raced.insertedBy 0)) ∧
      raced.insertedBy 1 = [] := by
  have tabled : Tabled RuleRow.Mirrors banked := Store.tabled_of_empty rfl
  have first : told? (raced.calls 0) = some (201, some 1) := by decide +kernel
  have second : told? (raced.calls 1) = some (409, none) := by decide +kernel
  obtain ⟨apart, _, truthful⟩ := apart_and_told_of_run {} tabled racing
  obtain ⟨drafts, response, answered, _, created⟩ := answered_of_told? first
  obtain ⟨others, refusal, refused, conflict, _⟩ := answered_of_told? second
  obtain ⟨length, filled⟩ := (truthful 0 drafts response answered).1 1 created
  exact ⟨tabled, first, second, apart, ⟨drafts, by omega, filled⟩,
    (truthful 1 others refusal refused).2 conflict⟩

end World

end Service

end LedgerRules
