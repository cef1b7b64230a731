import CreatureCards.Proofs.AlikeOutcome
import CreatureCards.Proofs.LikenessWalk

/-!
# Tame outcomes

An outcome is tame if nothing that comes of it blames a definition: neither
showing its questions nor answering them on admitted boards, and the same goes
for the effects that it hands to the keeper of the game and for whatever the
answers come to.  A tame outcome beside one that looks the same is a likeness: what
merging and walking keep of every likeness, they keep of each tame outcome beside
itself.
-/

namespace CreatureCards

variable {admits : Board → Prop}

/-- Nothing that comes of the outcome on admitted boards blames a definition. -/
inductive Outcome.Tame (admits : Board → Prop) : Outcome → Prop
  | value (data : Value) : Tame admits (value data)
  | card (id : CardId) : Tame admits (card id)
  | player (index : Nat) : Tame admits (player index)
  | ref (target : TargetRef) : Tame admits (ref target)
  | list {items : List Outcome} (each : ∀ item ∈ items, Tame admits item) : Tame admits (list items)
  | record {fields : Descriptors} (each : ∀ field ∈ fields, Tame admits field.2) :
      Tame admits (record fields)
  | question {inquiry : Inquiry} {answer : Choice → Engine Outcome}
      (shown : ∀ pick, inquiry = .pick pick →
        ∀ board, FailsBlameless (pick.source.candidates board))
      (blameless : ∀ choice, Harmless admits (fun _ => True) (answer choice))
      (follow : ∀ choice board, admits board → ∀ session outcome after,
        answer choice board session = (.ok outcome, after) → Tame admits outcome) :
      Tame admits (question inquiry answer)
  | callback {effect : Effect}
    (blameless : ∀ context, Harmless admits (fun _ => True) (effect context))
      (follow : ∀ context board, admits board → ∀ session outcome after,
        effect context board session = (.ok outcome, after) → Tame admits outcome) :
      Tame admits (callback effect)

namespace Outcome

/-- A question is tame if its answers are harmless and come to tame outcomes. -/
theorem tame_question {inquiry : Inquiry} {answer : Choice → Engine Outcome}
    (shown : ∀ pick, inquiry = .pick pick → ∀ board, FailsBlameless (pick.source.candidates board))
    (each : ∀ choice, Harmless admits (Tame admits) (answer choice)) :
    Tame admits (question inquiry answer) :=
  .question shown (fun choice => (each choice).weaken fun _ _ => trivial)
    fun choice _ admitted _ _ _ ran => (each choice).good_of_ok admitted ran

theorem tame_callback {effect : Effect}
    (each : ∀ context, Harmless admits (Tame admits) (effect context)) :
    Tame admits (callback effect) :=
  .callback (fun context => (each context).weaken fun _ _ => trivial)
    fun context _ admitted _ _ _ ran => (each context).good_of_ok admitted ran

namespace Tame

theorem answer {inquiry : Inquiry} {answer : Choice → Engine Outcome}
    (tame : Tame admits (.question inquiry answer)) (choice : Choice) :
    Harmless admits (Tame admits) (answer choice) := by
  cases tame with
  | question shown blameless follow => exact (blameless choice).of_ok (follow choice)

theorem shown {pick : Pick} {answer : Choice → Engine Outcome}
    (tame : Tame admits (.question (.pick pick) answer)) (board : Board) :
    FailsBlameless (pick.source.candidates board) := by
  cases tame with
  | question shown => exact shown pick rfl board

theorem of_mem_list {items : List Outcome} (tame : Tame admits (.list items)) {item : Outcome}
    (member : item ∈ items) : Tame admits item := by
  cases tame with
  | list each => exact each item member

theorem of_mem_record {fields : Descriptors} (tame : Tame admits (.record fields))
    {field : String × Outcome} (member : field ∈ fields) : Tame admits field.2 := by
  cases tame with
  | record each => exact each field member

theorem of_silent {outcome : Outcome} (silent : outcome.silent = true) : Tame admits outcome :=
  induction_of_silent .value .card .player .ref (fun _ each => .list each)
    (fun _ each => .record each)
    silent

theorem of_silentFields {fields : Descriptors} (silent : silentFields fields = true) :
    ∀ field ∈ fields, Tame admits field.2 :=
  fun field member => of_silent (silentFields_iff.1 silent field member)

theorem nothing : Tame admits Outcome.nothing :=
  of_silent silent_nothing

theorem text (content : String) : Tame admits (Outcome.text content) :=
  .value _

theorem descriptor {key : String} {payload : Outcome} (tame : Tame admits payload) :
    Tame admits (Outcome.descriptor key payload) :=
  .record (List.forall_mem_singleton.2 tame)

theorem orNothing {outcome : Outcome} (tame : Tame admits outcome) :
    Tame admits outcome.orNothing := by
  unfold Outcome.orNothing
  split
  · exact tame
  · exact nothing

end Tame

theorem Tame.of_matched {made : Outcome} {other : Except Failure Outcome}
    (matched : Matched (fun outcome other => Tame admits outcome ∧ outcome.seen = other.seen)
      (.ok made) other) :
    Tame admits made := by
  cases matched with
  | ok alike => exact alike.1

/-- Being tame and looking like the other outcome is a likeness, so merging and
walking keep it. -/
def tameness (admits : Board → Prop) : Likeness where
  alike outcome other := Tame admits outcome ∧ outcome.seen = other.seen
  field here there := Tame admits here.2 ∧ (here.1, here.2.seen) = (there.1, there.2.seen)
  asked question other :=
    Tame admits (.question question.inquiry question.answer) ∧ question.inquiry = other.inquiry
  parallel := by
    rintro outcome other ⟨tame, same⟩
    -- Outcomes that look the same have the same constructor.
    cases outcome <;> cases other <;> simp only [seen, reduceCtorEq, value.injEq, card.injEq,
      list.injEq, record.injEq, question.injEq, and_true] at same
    case value.value data _ => exact same ▸ .value data
    case card.card id _ => exact same ▸ .card id
    case player.player => exact .player _ _
    case ref.ref => exact .ref _ _
    case list.list =>
      exact .list ((List.forall₂_and_left _ _).2
        ⟨fun _ member => tame.of_mem_list member, forall₂_seen.2 same⟩)
    case record.record =>
      exact .record ((List.forall₂_and_left _ _).2
        ⟨fun _ member => tame.of_mem_record member, forall₂_seen_fields.2 same⟩)
    case question.question => exact .question ⟨tame, same⟩
    case callback.callback => exact .callback _ _
  value data := ⟨.value data, rfl⟩
  list each := by
    obtain ⟨tame, same⟩ := (List.forall₂_and_left _ _).1 each
    exact ⟨.list tame, congrArg Outcome.list (forall₂_seen.1 same)⟩
  record each := by
    obtain ⟨tame, same⟩ := (List.forall₂_and_left _ _).1 each
    exact ⟨.record tame, congrArg Outcome.record (forall₂_seen_fields.1 same)⟩
  question := by
    rintro ⟨inquiry, answer⟩ ⟨_, other⟩ ⟨tame, rfl⟩
    exact ⟨tame, rfl⟩
  key_eq same := (Prod.mk.inj same.2).1
  text key content := ⟨.text content, rfl⟩
  payload _ same := ⟨same.1, (Prod.mk.inj same.2).2⟩
  reserved _ alike := ⟨alike.1, congrArg (Prod.mk _) alike.2⟩
  goesOn := by
    rintro ⟨inquiry, answer⟩ other next otherNext ⟨tame, same⟩ never each
    refine ⟨tame_question (fun pick isPick => ?_) fun choice => ?_, same⟩
    · subst isPick
      exact tame.shown
    · refine (tame.answer choice).bind fun result isTame => ?_
      refine (Harmless.orFail (never result).blameless).weaken fun made isMade => ?_
      exact Tame.of_matched (isMade ▸ each result result ⟨isTame, rfl⟩)

/-- Tame outcomes are alike to themselves. -/
theorem all_tameness {results : List Outcome} (tame : ∀ result ∈ results, Tame admits result) :
    (tameness admits).All results results :=
  List.forall₂_same.2 fun result member => ⟨tame result member, rfl⟩

/-- Merging tame results comes to a tame one. -/
theorem tame_merge {results : List Outcome} (tame : ∀ result ∈ results, Tame admits result)
    {made : Outcome} (merged : merge results = .ok made) : Tame admits made :=
  Tame.of_matched (merged ▸ Likeness.merge (all_tameness tame))

theorem tame_collect {results : List Outcome} (tame : ∀ result ∈ results, Tame admits result) :
    Tame admits (collect results) :=
  (Likeness.collect (all_tameness tame)).1

end Outcome

namespace Walk

/-- Everything that the walk may still come to is tame. -/
structure Tame (admits : Board → Prop) (walk : Walk) : Prop where
  applied : ∀ result ∈ walk.applied, Outcome.Tame admits result
  queue : ∀ item ∈ walk.queue, Outcome.Tame admits item
  current : ∀ question, walk.current = some question →
    Outcome.Tame admits (.question question.inquiry question.answer)

/-- A tame walk has come as far as itself. -/
theorem Tame.walks {walk : Walk} (tame : walk.Tame admits) :
    (Outcome.tameness admits).Walks walk walk := by
  refine ⟨Outcome.all_tameness tame.applied, Outcome.all_tameness tame.queue, ?_⟩
  have current := tame.current
  cases asked : walk.current with
  | none => exact .none
  | some question => exact .some ⟨current question asked, rfl⟩

theorem tame_of_walks {walk other : Walk} (walks : (Outcome.tameness admits).Walks walk other) :
    walk.Tame admits := by
  refine ⟨((List.forall₂_and_left _ _).1 walks.applied).1,
    ((List.forall₂_and_left _ _).1 walks.queue).1, ?_⟩
  intro question asked
  have current := walks.current
  rw [asked] at current
  generalize other.current = counterpart at current
  cases current with
  | some same => exact same.1

theorem Tame.take {walk : Walk} (tame : walk.Tame admits) {outcome : Outcome}
    (other : Outcome.Tame admits outcome) : (walk.take outcome).1.Tame admits :=
  tame_of_walks (tame.walks.take ⟨other, rfl⟩).walk

end Walk

end CreatureCards
