import CreatureCards.Proofs.Likeness

/-!
# Alike outcomes

Outcomes are alike if they hold the same data and ask the same questions, and if
answering these questions comes to runs in accord whose outcomes are alike again.
Merging outcomes keeps them alike.
-/

namespace CreatureCards

variable {pairing : Pairing}

/-- The outcomes hold the same and ask the same; whatever an answer comes to is
alike again. -/
inductive Outcome.Alike (pairing : Pairing) : Outcome → Outcome → Prop
  | value (data : Value) : Alike pairing (value data) (value data)
  | card (id : CardId) : Alike pairing (card id) (card id)
  | player (index : Nat) : Alike pairing (player index) (player index)
  | ref (target : TargetRef) : Alike pairing (ref target) (ref target)
  | list {items others : List Outcome} (each : List.Forall₂ (Alike pairing) items others) :
      Alike pairing (list items) (list others)
  | keyed {fields others : Descriptors} {fits : Outcome → Outcome → Prop}
      (each : List.Forall₂ (fun field other => field.1 = other.1 ∧ fits field.2 other.2)
        fields others)
      (within : ∀ outcome other, fits outcome other → Alike pairing outcome other) :
      Alike pairing (record fields) (record others)
  | asking {inquiry : Inquiry} {answer other : Choice → Engine Outcome}
    {fits : Outcome → Outcome → Prop}
      (each : ∀ choice, Accords pairing fits (answer choice) (other choice))
      (within : ∀ outcome other, fits outcome other → Alike pairing outcome other) :
      Alike pairing (question inquiry answer) (question inquiry other)
  | handing {effect other : Effect} {fits : Outcome → Outcome → Prop}
      (each : ∀ context counterpart, pairing.Contexts context counterpart →
        Accords pairing fits (effect context) (other counterpart))
      (within : ∀ outcome other, fits outcome other → Alike pairing outcome other) :
      Alike pairing (callback effect) (callback other)

/-- The same keys in the same order, with payloads that are alike. -/
abbrev Descriptors.Alike (pairing : Pairing) : Descriptors → Descriptors → Prop :=
  List.Forall₂ fun field other => field.1 = other.1 ∧ Outcome.Alike pairing field.2 other.2

abbrev Outcome.AllAlike (pairing : Pairing) : List Outcome → List Outcome → Prop :=
  List.Forall₂ (Outcome.Alike pairing)

namespace Outcome

namespace Alike

theorem record {fields others : Descriptors} (alike : Descriptors.Alike pairing fields others) :
    Alike pairing (.record fields) (.record others) :=
  .keyed alike fun _ _ => id

theorem question {inquiry : Inquiry} {answer other : Choice → Engine Outcome}
    (each : ∀ choice, Accords pairing (Alike pairing) (answer choice) (other choice)) :
    Alike pairing (.question inquiry answer) (.question inquiry other) :=
  .asking each fun _ _ => id

theorem callback {effect other : Effect}
    (each : ∀ context counterpart, pairing.Contexts context counterpart →
      Accords pairing (Alike pairing) (effect context) (other counterpart)) :
    Alike pairing (.callback effect) (.callback other) :=
  .handing each fun _ _ => id

theorem of_record {fields others : Descriptors}
    (alike : Alike pairing (.record fields) (.record others)) :
    Descriptors.Alike pairing fields others := by
  cases alike with
  | keyed each within => exact each.imp fun _ _ same => ⟨same.1, within _ _ same.2⟩

/-- What asks nothing is alike to itself. -/
theorem of_silent {outcome : Outcome} (silent : outcome.silent = true) :
    Alike pairing outcome outcome :=
  induction_of_silent (motive := fun outcome => Alike pairing outcome outcome) .value .card
    .player .ref
    (fun _ each => .list (List.forall₂_same.2 each))
    (fun _ each => .record (List.forall₂_same.2 fun field member => ⟨rfl, each field member⟩))
      silent

theorem of_silentFields {fields : Descriptors} (silent : silentFields fields = true) :
    Descriptors.Alike pairing fields fields :=
  List.forall₂_same.2 fun field member => ⟨rfl, of_silent (silentFields_iff.1 silent field member)⟩

theorem nothing : Alike pairing .nothing .nothing :=
  .record .nil

theorem descriptor {key : String} {payload other : Outcome} (alike : Alike pairing payload other) :
    Alike pairing (.descriptor key payload) (.descriptor key other) :=
  .record (.cons ⟨rfl, alike⟩ .nil)

end Alike

end Outcome

/-- The same question, whose answers are in accord. -/
structure Question.Alike (pairing : Pairing) (question other : Question) : Prop where
  inquiry : other.inquiry = question.inquiry
  answer :
    ∀ choice, Accords pairing (Outcome.Alike pairing) (question.answer choice) (other.answer choice)

namespace Outcome

/-- Being alike is a likeness, so it is kept by merging and walking. -/
def alikeness (pairing : Pairing) : Likeness where
  alike := Alike pairing
  field here there := here.1 = there.1 ∧ Alike pairing here.2 there.2
  asked := Question.Alike pairing
  parallel := by
    rintro _ _ (data | id | index | target | each | ⟨each, within⟩ | ⟨each, within⟩ |
      ⟨each, within⟩)
    · exact .value data
    · exact .card id
    · exact .player index index
    · exact .ref target target
    · exact .list each
    · exact .record (Alike.of_record (.keyed each within))
    · exact .question ⟨rfl, fun choice => (each choice).weaken within⟩
    · exact .callback _ _
  value := .value
  list := .list
  record := .record
  question := by
    rintro ⟨_, _⟩ ⟨_, _⟩ ⟨rfl, each⟩
    exact .question each
  key_eq := And.left
  text _ content := ⟨rfl, .value (.text content)⟩
  payload _ same := same.2
  reserved _ alike := ⟨rfl, alike⟩
  goesOn same never each :=
    ⟨same.inquiry, fun choice => (same.answer choice).bind fun _ _ alike =>
      .orFail (each _ _ alike) (never _)⟩

variable {outcome other : Outcome}

theorem Alike.isTruthy_eq (alike : Alike pairing outcome other) :
    outcome.isTruthy = other.isTruthy :=
  @Likeness.isTruthy_eq (alikeness pairing) _ _ alike

theorem Alike.orNothing (alike : Alike pairing outcome other) :
    Alike pairing outcome.orNothing other.orNothing :=
  @Likeness.orNothing (alikeness pairing) _ _ alike

theorem Alike.mentions_eq (alike : Alike pairing outcome other) (key : String) :
    outcome.mentions key = other.mentions key :=
  @Likeness.mentions_eq (alikeness pairing) _ _ alike key

theorem AllAlike.collect {results others : List Outcome} (alike : AllAlike pairing results others) :
    Alike pairing (Outcome.collect results) (Outcome.collect others) :=
  @Likeness.collect (alikeness pairing) _ _ alike

theorem AllAlike.merge {results others : List Outcome} (alike : AllAlike pairing results others) :
    Matched (Alike pairing) (Outcome.merge results) (Outcome.merge others) :=
  @Likeness.merge (alikeness pairing) _ _ alike

end Outcome

namespace Outcome

mutual

/-- What can be seen of an outcome, with everything that follows left out. -/
def seen : Outcome → Outcome
  | list items => list (seenItems items)
  | record fields => record (seenFields fields)
  | question inquiry _ => question inquiry fun _ => pure nothing
  | callback _ => callback fun _ => pure nothing
  | value data => value data
  | card id => card id
  | player index => player index
  | ref target => ref target

def seenItems : List Outcome → List Outcome
  | [] => []
  | item :: rest => seen item :: seenItems rest

def seenFields : Descriptors → Descriptors
  | [] => []
  | (key, payload) :: rest => (key, seen payload) :: seenFields rest

end

theorem seenItems_eq_map (items : List Outcome) : seenItems items = items.map seen := by
  induction items with
  | nil => rfl
  | cons item rest ih => rw [seenItems, ih, List.map_cons]

theorem seenFields_eq_map (fields : Descriptors) :
    seenFields fields = fields.map fun field => (field.1, field.2.seen) := by
  induction fields with
  | nil => rfl
  | cons field rest ih => rw [seenFields, ih, List.map_cons]

/-- Entries that look the same, one by one. -/
theorem forall₂_seen {items others : List Outcome} :
    List.Forall₂ (fun item other => item.seen = other.seen) items others ↔
      seenItems items = seenItems others := by
  rw [seenItems_eq_map, seenItems_eq_map, ← List.forall₂_eq_eq_eq, List.forall₂_map_left_iff,
    List.forall₂_map_right_iff]

theorem forall₂_seen_fields {fields others : Descriptors} :
    List.Forall₂ (fun field other => (field.1, field.2.seen) = (other.1, other.2.seen))
      fields others ↔
      seenFields fields = seenFields others := by
  rw [seenFields_eq_map, seenFields_eq_map, ← List.forall₂_eq_eq_eq, List.forall₂_map_left_iff,
    List.forall₂_map_right_iff]

namespace Alike

mutual

/-- Outcomes that are alike look the same. -/
theorem seen_eq : ∀ {outcome other : Outcome}, Alike pairing outcome other →
    other.seen = outcome.seen
  | .list items, _, .list each => by
      rw [seen, seen, seenItems_eq each]
  | .record fields, _, .keyed each within => by
      rw [seen, seen, seenFields_eq (of_record (.keyed each within))]
  | .question _ _, _, .asking _ _ => by
      rw [seen, seen]
  | .callback _, _, .handing _ _ => by
      rw [seen, seen]
  | .value _, _, alike | .card _, _, alike | .player _, _, alike | .ref _, _, alike => by
      cases alike
      rfl

theorem seenItems_eq : ∀ {items others : List Outcome}, AllAlike pairing items others →
    seenItems others = seenItems items
  | [], _, .nil => rfl
  | _ :: _, _ :: _, .cons here later => by
      rw [seenItems, seenItems, seen_eq here, seenItems_eq later]

theorem seenFields_eq : ∀ {fields others : Descriptors}, Descriptors.Alike pairing fields others →
    seenFields others = seenFields fields
  | [], _, .nil => rfl
  | (key, payload) :: rest, (_, payloadOther) :: others, .cons ⟨rfl, here⟩ later => by
      rw [seenFields, seenFields, seen_eq here, seenFields_eq later]

end

end Alike

end Outcome

/-- The runs come to the same, as far as it can be seen, and leave the same records. -/
structure ComesToSame (run other : Except Failure Outcome × Session) : Prop where
  result : other.1.map Outcome.seen = run.1.map Outcome.seen
  records : run.2.SameRecords other.2

theorem Matched.seen_eq {result other : Except Failure Outcome}
    (matched : Matched (Outcome.Alike pairing) result other) :
    other.map Outcome.seen = result.map Outcome.seen := by
  cases matched with
  | ok alike => exact congrArg Except.ok alike.seen_eq
  | failed failure => rfl

end CreatureCards
