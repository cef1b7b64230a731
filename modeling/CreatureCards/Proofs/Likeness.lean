import CreatureCards.Proofs.Accord
import CreatureCards.Proofs.PlainEffects

/-!
# Likeness of outcomes

A likeness compares outcomes that have the same shape: the same data, the same keys
in the same order, and questions where the other has questions.  What it says about
cards and players, about payloads and about answers is left to it, as long as data
is like itself and the payloads that merging looks into are alike.  Merging keeps
every likeness.
-/

namespace CreatureCards

/-- Keys whose payloads are looked into when outcomes are merged and walked. -/
def reservedKeys : List String := compositeKey :: chainKeys

/-- The outcomes have the same shape. -/
inductive Outcome.Parallel (alike : Outcome → Outcome → Prop)
    (field : String × Outcome → String × Outcome → Prop) (asked : Question → Question → Prop) :
    Outcome → Outcome → Prop
  | value (data : Value) : Parallel alike field asked (value data) (value data)
  | card (id : CardId) : Parallel alike field asked (card id) (card id)
  | player (index other : Nat) : Parallel alike field asked (player index) (player other)
  | ref (target other : TargetRef) : Parallel alike field asked (ref target) (ref other)
  | list {items others : List Outcome} (each : List.Forall₂ alike items others) :
      Parallel alike field asked (list items) (list others)
  | record {fields others : Descriptors} (each : List.Forall₂ field fields others) :
      Parallel alike field asked (record fields) (record others)
  | question {inquiry otherInquiry : Inquiry} {answer other : Choice → Engine Outcome}
      (same : asked ⟨inquiry, answer⟩ ⟨otherInquiry, other⟩) :
      Parallel alike field asked (question inquiry answer) (question otherInquiry other)
  | callback (effect other : Effect) : Parallel alike field asked (callback effect) (callback other)

/-- A relation between outcomes of the same shape. -/
structure Likeness where
  alike : Outcome → Outcome → Prop
  /-- How the fields of records that are alike compare. -/
  field : String × Outcome → String × Outcome → Prop
  /-- How questions that are alike compare. -/
  asked : Question → Question → Prop
  parallel : ∀ {outcome other}, alike outcome other → outcome.Parallel alike field asked other
  value : ∀ data, alike (.value data) (.value data)
  list : ∀ {items others}, List.Forall₂ alike items others → alike (.list items) (.list others)
  record : ∀ {fields others}, List.Forall₂ field fields others →
    alike (.record fields) (.record others)
  question : ∀ {question other : Question}, asked question other →
    alike (.question question.inquiry question.answer) (.question other.inquiry other.answer)
  key_eq : ∀ {here there}, field here there → here.1 = there.1
  text : ∀ key content, field (key, .text content) (key, .text content)
  payload : ∀ {key payload other}, key ∈ reservedKeys → field (key, payload) (key, other) →
    alike payload other
  reserved : ∀ {key payload other}, key ∈ reservedKeys → alike payload other →
    field (key, payload) (key, other)
  /-- Questions stay alike when their answers go on alike. -/
  goesOn : ∀ {question other : Question} {next otherNext : Outcome → Except Failure Outcome},
    asked question other → (∀ result, NeverRefuses (next result)) →
    (∀ result answer, alike result answer → Matched alike (next result) (otherNext answer)) →
    asked ⟨question.inquiry, fun choice => do Engine.orFail (next (← question.answer choice))⟩
      ⟨other.inquiry, fun choice => do Engine.orFail (otherNext (← other.answer choice))⟩

section Lists

variable {α β : Type} {fits : α → β → Prop} {items : List α} {others : List β}

theorem isEmpty_eq_of_forall₂ (each : List.Forall₂ fits items others) :
    items.isEmpty = others.isEmpty := by
  cases each <;> rfl

theorem getElem?_of_forall₂ (each : List.Forall₂ fits items others) (place : Nat) :
    Option.Rel fits items[place]? others[place]? := by
  induction each generalizing place with
  | nil => exact .none
  | cons here later ih =>
      cases place with
      | zero => exact .some here
      | succ place => exact ih place

/-- Entries of one list, seen in two ways that fit each other. -/
theorem forall₂_map {γ : Type} {entries : List γ} {make : γ → α} {other : γ → β}
    (each : ∀ entry ∈ entries, fits (make entry) (other entry)) :
    List.Forall₂ fits (entries.map make) (entries.map other) := by
  rw [List.forall₂_map_left_iff, List.forall₂_map_right_iff]
  exact List.forall₂_same.2 each

end Lists

namespace Likeness

/-- The same keys in the same order, with fields that compare. -/
abbrev Fields (likeness : Likeness) : Descriptors → Descriptors → Prop :=
  List.Forall₂ likeness.field

abbrev All (likeness : Likeness) : List Outcome → List Outcome → Prop :=
  List.Forall₂ likeness.alike

variable {likeness : Likeness}

theorem nothing : likeness.alike .nothing .nothing :=
  likeness.record .nil

section Fields

variable {fields others added addedOthers : Descriptors}

theorem put {key : String} {payload other : Outcome}
    (here : likeness.field (key, payload) (key, other)) (alike : likeness.Fields fields others) :
    likeness.Fields (KeyedList.put key payload fields) (KeyedList.put key other others) := by
  induction alike with
  | nil => exact .cons here .nil
  | @cons field counterpart rest otherRest same later ih =>
      obtain ⟨name, earlier⟩ := field
      obtain ⟨_, earlierOther⟩ := counterpart
      obtain rfl := likeness.key_eq same
      rw [KeyedList.put, KeyedList.put]
      split
      · exact .cons here later
      · exact .cons same ih

theorem putAll (alike : likeness.Fields fields others) (more : likeness.Fields added addedOthers) :
    likeness.Fields (KeyedList.putAll fields added) (KeyedList.putAll others addedOthers) := by
  induction more generalizing fields others with
  | nil => exact alike
  | @cons field counterpart rest otherRest same later ih =>
      obtain ⟨name, payload⟩ := field
      obtain ⟨_, payloadOther⟩ := counterpart
      obtain rfl := likeness.key_eq same
      exact ih (put same alike)

theorem filter (alike : likeness.Fields fields others) (keep : String → Bool) :
    likeness.Fields (fields.filter fun field => keep field.1)
      (others.filter fun field => keep field.1) :=
  List.rel_filter (fun _ _ same => iff_of_eq (congrArg (keep · = true) (likeness.key_eq same)))
    alike

theorem immediate (alike : likeness.Fields fields others) :
    likeness.Fields (Descriptors.immediate fields) (Descriptors.immediate others) :=
  filter alike fun key => !chainKeys.contains key

theorem prompting (alike : likeness.Fields fields others) :
    likeness.Fields (Descriptors.prompting fields) (Descriptors.prompting others) :=
  filter alike fun key => chainKeys.contains key

/-- What stands under the same key compares. -/
theorem lookup_field (alike : likeness.Fields fields others) (key : String) :
    Option.Rel (fun payload other => likeness.field (key, payload) (key, other)) (fields.lookup key)
      (others.lookup key) := by
  induction alike with
  | nil => exact .none
  | @cons field counterpart rest otherRest same later ih =>
      obtain ⟨name, payload⟩ := field
      obtain ⟨_, payloadOther⟩ := counterpart
      obtain rfl := likeness.key_eq same
      rw [List.lookup_cons, List.lookup_cons]
      dsimp only
      split
      · rename_i isKey
        obtain rfl := eq_of_beq isKey
        exact .some same
      · exact ih

theorem lookup (alike : likeness.Fields fields others) {key : String}
    (isReserved : key ∈ reservedKeys) :
    Option.Rel likeness.alike (fields.lookup key) (others.lookup key) := by
  have found := lookup_field alike key
  generalize fields.lookup key = payload at found ⊢
  generalize others.lookup key = other at found ⊢
  cases found with
  | none => exact .none
  | some same => exact .some (likeness.payload isReserved same)

theorem has_eq (alike : likeness.Fields fields others) (key : String) :
    KeyedList.has fields key = KeyedList.has others key := by
  have found := lookup_field alike key
  unfold KeyedList.has
  generalize fields.lookup key = payload at found ⊢
  generalize others.lookup key = other at found ⊢
  cases found <;> rfl

theorem keyTexts (alike : likeness.Fields fields others) :
    likeness.All (fields.map fun field => .text field.1) (others.map fun field => .text field.1) :=
  List.rel_map (fun _ _ same => likeness.key_eq same ▸ likeness.value _) alike

end Fields

section Reading

variable {outcome other : Outcome}

theorem isTruthy_eq (alike : likeness.alike outcome other) : outcome.isTruthy = other.isTruthy := by
  cases likeness.parallel alike with
  | list each =>
      simp only [Outcome.isTruthy]
      rw [isEmpty_eq_of_forall₂ each]
  | record each =>
      simp only [Outcome.isTruthy]
      rw [isEmpty_eq_of_forall₂ each]
  | _ => rfl

theorem orNothing (alike : likeness.alike outcome other) :
    likeness.alike outcome.orNothing other.orNothing := by
  unfold Outcome.orNothing
  rw [isTruthy_eq alike]
  split
  · exact alike
  · exact nothing

theorem present {results others : List Outcome} (alike : likeness.All results others) :
    likeness.All (results.filter Outcome.isTruthy) (others.filter Outcome.isTruthy) :=
  List.rel_filter (fun _ _ same => iff_of_eq (congrArg (· = true) (isTruthy_eq same))) alike

theorem elements (alike : likeness.alike outcome other) :
    Matched likeness.All outcome.elements other.elements := by
  cases likeness.parallel alike with
  | value data =>
      refine .refl fun items stepped => ?_
      cases found : data.elements? with
      | none => simp [Outcome.elements, found] at stepped
      | some entries =>
          obtain rfl : entries.map Outcome.value = items :=
            by simpa [Outcome.elements, found] using stepped
          exact List.forall₂_same.2 (List.forall_mem_map.2 fun entry _ => likeness.value entry)
  | list each => exact .ok each
  | record each => exact .ok (keyTexts each)
  | card | player | ref | question | callback => exact .failed _

theorem mentions_eq (alike : likeness.alike outcome other) (key : String) :
    outcome.mentions key = other.mentions key := by
  cases likeness.parallel alike with
  | list each =>
      refine congrArg Except.ok ?_
      induction each with
      | nil => rfl
      | cons here later ih =>
          rw [List.any_cons, List.any_cons, ih (likeness.list later)]
          cases likeness.parallel here <;> rfl
  | record each => exact congrArg Except.ok (has_eq each key)
  | value | card | player | ref | question | callback => rfl

theorem asks_eq (alike : likeness.alike outcome other) : outcome.asks = other.asks := by
  unfold Outcome.asks
  rw [isTruthy_eq alike, mentions_eq alike, mentions_eq alike]

theorem fields (alike : likeness.alike outcome other) :
    Matched likeness.Fields outcome.fields other.fields := by
  cases likeness.parallel alike with
  | record each => exact .ok each
  | value | card | player | ref | list | question | callback => exact .failed _

theorem isKeyOf_eq {merged mergedOther : Descriptors} (merges : likeness.Fields merged mergedOther)
    (alike : likeness.alike outcome other) :
    outcome.isKeyOf merged = other.isKeyOf mergedOther := by
  cases likeness.parallel alike with
  | value data =>
      cases data with
      | text key => exact congrArg Except.ok (has_eq merges key)
      | _ => rfl
  | _ => rfl

theorem pair (alike : likeness.alike outcome other) :
    Matched likeness.field outcome.pair other.pair := by
  cases likeness.parallel alike with
  | value data =>
      refine .refl fun field paired => ?_
      unfold Outcome.pair at paired
      split at paired
      · split at paired
        · cases paired
          exact likeness.text _ _
        · cases paired
      · cases paired
  | card | player | ref | list | record | question | callback => exact .failed _

theorem anyKeyOf_eq {merged mergedOther : Descriptors} (merges : likeness.Fields merged mergedOther)
    {keys others : List Outcome} (alike : likeness.All keys others) :
    Outcome.anyKeyOf merged keys = Outcome.anyKeyOf mergedOther others := by
  induction alike with
  | nil => rfl
  | cons here later ih => rw [Outcome.anyKeyOf, Outcome.anyKeyOf, isKeyOf_eq merges here, ih]

theorem addTo {merged mergedOther : Descriptors} (merges : likeness.Fields merged mergedOther)
    (alike : likeness.alike outcome other) :
    Matched likeness.Fields (outcome.addTo merged) (other.addTo mergedOther) := by
  have pairs : Matched likeness.Fields
      (do return KeyedList.putAll merged (← (← outcome.elements).mapM Outcome.pair))
      (do return KeyedList.putAll mergedOther (← (← other.elements).mapM Outcome.pair)) :=
    (elements alike).bind fun _ _ entries =>
      (Matched.mapM (entries.imp fun _ _ => pair)).bind fun _ _ added => .ok (putAll merges added)
  cases likeness.parallel alike with
  | record each => exact .ok (putAll merges each)
  | value | card | player | ref | list | question | callback => exact pairs

end Reading

section Merging

/-- What is merged so far is alike, and so are the results that collided. -/
structure Merges (likeness : Likeness) (merging other : Outcome.Merging) : Prop where
  merged : likeness.Fields merging.merged other.merged
  overflow : likeness.All merging.overflow other.overflow

variable {merging other : Outcome.Merging} {results others : List Outcome}

theorem Merges.add (merges : likeness.Merges merging other) {result counterpart : Outcome}
    (here : likeness.alike result counterpart) :
    Matched likeness.Merges (merging.add result) (other.add counterpart) := by
  unfold Outcome.Merging.add
  rw [isTruthy_eq here]
  refine .ite (.ok merges) ?_
  refine (elements here).bind fun keys others areAlike => ?_
  rw [anyKeyOf_eq merges.merged areAlike]
  refine .after fun collides => ?_
  refine .ite (.ok ⟨merges.merged, List.rel_append merges.overflow (.cons here .nil)⟩) ?_
  exact (addTo merges.merged here).bind fun _ _ added => .ok ⟨added, merges.overflow⟩

theorem Merges.finish (merges : likeness.Merges merging other) :
    Matched likeness.Fields merging.finish other.finish := by
  unfold Outcome.Merging.finish
  rw [isEmpty_eq_of_forall₂ merges.overflow]
  refine .ite (.ok merges.merged) ?_
  have isReserved : compositeKey ∈ reservedKeys := List.mem_cons_self
  have behind {kept keptOther : List Outcome} (same : likeness.All kept keptOther) :
      likeness.Fields
        (KeyedList.put compositeKey (.list (kept ++ merging.overflow)) merging.merged)
        (KeyedList.put compositeKey (.list (keptOther ++ other.overflow)) other.merged) :=
    put (likeness.reserved isReserved (likeness.list (List.rel_append same merges.overflow)))
      merges.merged
  have found := lookup merges.merged isReserved
  generalize merging.merged.lookup compositeKey = payload at found ⊢
  generalize other.merged.lookup compositeKey = counterpart at found ⊢
  cases found with
  | none => exact .ok (behind .nil)
  | some same => exact (elements same).bind fun _ _ kept => .ok (behind kept)

theorem Merges.addAll (merges : likeness.Merges merging other)
    (alike : likeness.All results others) :
    Matched likeness.Merges (results.foldlM Outcome.Merging.add merging)
      (others.foldlM Outcome.Merging.add other) := by
  induction alike generalizing merging other with
  | nil => exact .ok merges
  | cons here later ih =>
      rw [List.foldlM_cons, List.foldlM_cons]
      exact (merges.add here).bind fun _ _ next => ih next

theorem combine (alike : likeness.All results others) :
    Matched likeness.Fields (Outcome.combine results) (Outcome.combine others) :=
  have start : likeness.Merges {} {} := ⟨.nil, .nil⟩
  (start.addAll alike).bind fun _ _ merging => merging.finish

theorem collect (alike : likeness.All results others) :
    likeness.alike (Outcome.collect results) (Outcome.collect others) := by
  have remaining := present alike
  unfold Outcome.collect
  generalize results.filter Outcome.isTruthy = entries at remaining ⊢
  generalize others.filter Outcome.isTruthy = counterparts at remaining ⊢
  cases remaining with
  | nil => exact nothing
  | cons here later =>
      cases later with
      | nil => exact here
      | cons next rest =>
          have each := likeness.list (.cons here (.cons next rest))
          exact likeness.record (.cons (likeness.reserved List.mem_cons_self each) .nil)

theorem mem_reservedKeys {key : String} (chains : key ∈ chainKeys) : key ∈ reservedKeys :=
  List.mem_cons_of_mem _ chains

theorem pendingKey_mem : pendingKey ∈ reservedKeys :=
  mem_reservedKeys (List.mem_append_right _ (List.mem_singleton_self _))

theorem queued {fields otherFields : Descriptors} (alike : likeness.Fields fields otherFields)
    (areAlike : likeness.All results others) :
    Matched likeness.alike (Outcome.queued fields results) (Outcome.queued otherFields others) := by
  unfold Outcome.queued
  have found := lookup alike pendingKey_mem
  generalize fields.lookup pendingKey = payload at found ⊢
  generalize otherFields.lookup pendingKey = counterpart at found ⊢
  cases found with
  | none => exact .ok (likeness.list areAlike)
  | some same =>
      exact (elements same).bind fun _ _ waiting =>
        .ok (likeness.list (List.rel_append waiting areAlike))

/-- A record with results that wait for its question. -/
theorem record_pending {fields otherFields : Descriptors}
    (alike : likeness.Fields fields otherFields) {waiting counterpart : Outcome}
    (waits : likeness.alike waiting counterpart) :
    likeness.alike (.record (KeyedList.put pendingKey waiting fields))
      (.record (KeyedList.put pendingKey counterpart otherFields)) :=
  likeness.record (put (likeness.reserved pendingKey_mem waits) alike)

/-- Results that wait stay alike when they are attached to an answer. -/
theorem advance {result counterpart : Outcome} (alike : likeness.alike result counterpart)
    (areAlike : likeness.All results others) :
    Matched likeness.alike (Outcome.advance result results)
      (Outcome.advance counterpart others) := by
  cases areAlike with
  | nil => exact .ok alike
  | @cons upcoming upcomingOther remaining remainingOthers here later =>
      unfold Outcome.advance
      dsimp only
      rw [asks_eq alike]
      refine .after fun asks => ?_
      refine .ite ?_ ?_
      · refine (addTo .nil alike).bind fun fields others added => ?_
        exact (queued added (.cons here later)).bind fun _ _ waits =>
          .ok (record_pending added waits)
      · refine (fields here).bind fun fields others whole => ?_
        have prompt := prompting whole
        have ahead : likeness.All [result, .record (Descriptors.immediate fields)]
            [counterpart, .record (Descriptors.immediate others)] :=
          .cons alike (.cons (likeness.record (immediate whole)) .nil)
        refine (combine ahead).bind fun combined combinedOther same => ?_
        rw [isEmpty_eq_of_forall₂ later]
        refine .ite (.ok (likeness.record (putAll same prompt))) ?_
        exact (queued prompt later).bind fun _ _ waits =>
          .ok (record_pending (putAll same prompt) waits)

/-- Linking the results that wait to a question keeps the question alike. -/
theorem link {prompt other : Descriptors} (alike : likeness.Fields prompt other)
    (areAlike : likeness.All results others) :
    Matched likeness.Fields (Outcome.link prompt results) (Outcome.link other others) := by
  unfold Outcome.link
  dsimp only
  rw [has_eq alike]
  have isReserved (targets : Bool) :
      (if targets = true then "select_target" else "select_option") ∈ reservedKeys := by
    cases targets <;> simp [reservedKeys, chainKeys, questionKeys]
  have isReserved := isReserved (KeyedList.has other "select_target")
  generalize (if KeyedList.has other "select_target" = true then "select_target"
    else "select_option") = key
    at isReserved ⊢
  have found := lookup alike isReserved
  generalize prompt.lookup key = payload at found ⊢
  generalize other.lookup key = counterpart at found ⊢
  cases found with
  | none => exact .failed _
  | some same =>
      cases likeness.parallel same with
      | question questions =>
          have never (result : Outcome) : NeverRefuses (Outcome.advance result.orNothing results) :=
            (Outcome.shapely_advance _ _).weaken fun _ fault => fault.not_refusesDefinition
          have linked :=
            likeness.goesOn questions never fun _ _ isAlike => advance (orNothing isAlike) areAlike
          exact .ok (put (likeness.reserved isReserved (likeness.question linked)) alike)
      | value | card | player | ref | list | record | callback => exact .failed _

/-- The results that ask a question, and those that ask none. -/
theorem marked (alike : likeness.All results others) :
    Matched (List.Forall₂ fun entry other => entry.1 = other.1 ∧ likeness.alike entry.2 other.2)
      (results.mapM fun result => do return (← result.asks, result))
      (others.mapM fun result => do return (← result.asks, result)) := by
  refine .mapM (alike.imp fun result other same => ?_)
  rw [asks_eq same]
  exact .after fun asks => .ok ⟨rfl, same⟩

/-- Merging outcomes that are alike comes to outcomes that are alike. -/
theorem merge (alike : likeness.All results others) :
    Matched likeness.alike (Outcome.merge results) (Outcome.merge others) := by
  have remaining := present alike
  unfold Outcome.merge
  generalize results.filter Outcome.isTruthy = entries at remaining ⊢
  generalize others.filter Outcome.isTruthy = counterparts at remaining ⊢
  cases remaining with
  | nil => exact .ok nothing
  | cons here later =>
      cases later with
      | nil => exact .ok here
      | cons next rest =>
          refine (marked (.cons here (.cons next rest))).bind fun entries counterparts areMarked =>
            ?_
          have part (keep : Bool → Bool) :
              likeness.All ((entries.filter fun entry => keep entry.1).map Prod.snd)
                ((counterparts.filter fun entry => keep entry.1).map Prod.snd) :=
            List.rel_map (fun _ _ same => same.2) (List.rel_filter
              (fun _ _ same => iff_of_eq (congrArg (keep · = true) same.1)) areMarked)
          have asking := part id
          have silent := part not
          dsimp only [id_eq] at asking ⊢
          generalize (entries.filter Prod.fst).map Prod.snd = questions at asking ⊢
          generalize (counterparts.filter Prod.fst).map Prod.snd = questionsOther at asking ⊢
          cases asking with
          | nil => exact (combine silent).bind fun _ _ fields => .ok (likeness.record fields)
          | cons first behind =>
              refine (Likeness.fields first).bind fun fields fieldsOther whole => ?_
              have ahead := List.rel_append silent (.cons (likeness.record (immediate whole)) .nil)
              refine (combine ahead).bind fun merged mergedOther same => ?_
              rw [isEmpty_eq_of_forall₂ behind]
              refine .ite (.ok (likeness.record (putAll same (prompting whole)))) ?_
              exact (link (prompting whole) behind).bind fun _ _ linked =>
                .ok (likeness.record (putAll same linked))

end Merging

end Likeness

end CreatureCards
