import CreatureCards.Proofs.FaultPlace
import Mathlib

/-!
# Catalogs

A catalog is checked card by card, with the ids of the cards before at hand.  Which cards
those are decides only which one of several cards with the same id is reported: what is
found wrong, counted and in no order, depends on the cards and not on their order.  So a
catalog is valid exactly if its ids are there and distinct and the definitions of its cards
have no errors.
-/

namespace CreatureCards

namespace Validation

/-- The id of a card, if it has one.  An empty text is no id. -/
def cardId? (card : Fields) : Option String :=
  ((Value.object card).get "id").text?.filter (· != "")

/-- The ids of the cards that have one. -/
def cardIds (cards : List Fields) : List String :=
  cards.filterMap cardId?

/-- The id of the card is a text, if it is there. -/
def TextId (card : Fields) : Prop :=
  ((Value.object card).get "id").isTruthy = true → ∃ id, (Value.object card).get "id" = .text id

/-- The effects of the card are an object, if they are there, and the definitions in it have
no errors. -/
def EffectsPass (path : String) (card : Fields) : Prop :=
  ((Value.object card).get "effects").isTruthy = true →
    ∃ effects, (Value.object card).get "effects" = .object effects ∧
      ∀ entry ∈ effects, entry.2.isTruthy = true → definitionErrors entry.2 path = .ok []

/-- The ids that came before, in the list or ahead of it. -/
def repeats (seen : List String) : List String → List String
  | [] => []
  | id :: rest => if id ∈ seen then id :: repeats seen rest else repeats (id :: seen) rest

theorem count_repeats (ids seen : List String) (id : String) :
    (repeats seen ids).count id = if id ∈ seen then ids.count id else ids.count id - 1 := by
  induction ids generalizing seen with
  | nil => simp [repeats]
  | cons first rest ih =>
      rw [repeats]
      by_cases known : first ∈ seen
      · rw [if_pos known, List.count_cons, List.count_cons, ih]
        by_cases same : first = id
        · subst same
          simp [known]
        · simp [same]
      · rw [if_neg known, ih, List.count_cons]
        by_cases same : first = id
        · subst same
          simp [known]
        · simp [same, Ne.symm same]

/-- Every id comes once besides the repeats. -/
theorem repeats_append_dedup_perm (ids : List String) : (repeats [] ids ++ ids.dedup).Perm ids := by
  rw [List.perm_iff_count]
  intro id
  rw [List.count_append, count_repeats, if_neg List.not_mem_nil, List.count_dedup]
  split
  · have := List.count_pos_iff.2 ‹id ∈ ids›
    omega
  · rw [List.count_eq_zero_of_not_mem ‹_›]

theorem length_repeats (ids : List String) :
    (repeats [] ids).length = ids.length - ids.toFinset.card := by
  have lengths := (repeats_append_dedup_perm ids).length_eq
  rw [List.length_append] at lengths
  rw [List.card_toFinset]
  omega

theorem repeats_eq_nil_iff (ids : List String) : repeats [] ids = [] ↔ ids.Nodup := by
  rw [← List.length_eq_zero_iff, length_repeats, List.card_toFinset, Nat.sub_eq_zero_iff_le]
  constructor
  · intro long
    have same := (List.dedup_sublist ids).eq_of_length_le long
    exact same ▸ List.nodup_dedup ids
  · intro distinct
    rw [distinct.dedup]

theorem repeats_perm {ids others : List String} (perm : others.Perm ids) :
    (repeats [] others).Perm (repeats [] ids) := by
  rw [List.perm_iff_count]
  intro id
  rw [count_repeats, count_repeats, perm.count_eq]

/-- Whether a definition has errors does not depend on where it is checked. -/
theorem definitionErrors_eq_nil_of {definition : Value} {path : String}
    (none : definitionErrors definition path = .ok []) (other : String) :
    definitionErrors definition other = .ok [] := by
  obtain ⟨faults, -, reports⟩ := localized_checkDefinition definition
  obtain ⟨findings, checked, noErrors⟩ := clean_of_definitionErrors none
  have free : ¬ Stuck definition := fun stuck => by
    rw [(failsIff_checkDefinition definition path).fails stuck] at checked
    cases checked
  obtain ⟨found, checkedThere⟩ := (failsIff_checkDefinition definition other).answers free
  have noFaults : faults = [] :=
    List.map_eq_nil_iff.1 ((reports path findings checked).symm.trans noErrors)
  rw [definitionErrors_of_checkDefinition checkedThere, reports other found checkedThere, noFaults]
  rfl

section Trigger

variable {card trigger path : String} {definition : Value} {findings : Findings}

theorem errors_checkTrigger_of_absent (absent : ¬ definition.isTruthy = true)
    (checked : checkTrigger card trigger definition = .ok findings) : findings.errors = [] := by
  unfold checkTrigger at checked
  dsimp only at checked
  rw [if_pos (by simpa using absent)] at checked
  cases checked
  split <;> rfl

theorem errors_checkTrigger_of_present (present : definition.isTruthy = true)
    (checked : checkTrigger card trigger definition = .ok findings) :
    ∃ found, checkDefinition definition s!"{card}.{trigger}" = .ok found ∧
      findings.errors = found.errors := by
  unfold checkTrigger at checked
  dsimp only at checked
  rw [if_neg (by simp [present])] at checked
  obtain ⟨found, isFound, same⟩ := bind_eq_ok.1 checked
  refine ⟨found, isFound, ?_⟩
  cases same
  split <;> rfl

theorem errors_checkTrigger_eq_nil_iff
    (checked : checkTrigger card trigger definition = .ok findings) :
    findings.errors = [] ↔
      (definition.isTruthy = true → definitionErrors definition path = .ok []) := by
  by_cases present : definition.isTruthy = true
  · obtain ⟨found, isFound, same⟩ := errors_checkTrigger_of_present present checked
    have here := definitionErrors_of_checkDefinition isFound
    rw [same]
    constructor
    · intro none _
      exact definitionErrors_eq_nil_of (none ▸ here) path
    · intro none
      exact Except.ok.inj (here.symm.trans (definitionErrors_eq_nil_of (none present) _))
  · simp [errors_checkTrigger_of_absent present checked, present]

end Trigger

section Card

variable {card : Fields} {findings : Findings}

/-- The effects of a checked card are absent, or no object, or looked through. -/
theorem checkCard_cases (checked : checkCard (.object card) = .ok findings) :
    (¬ ((Value.object card).get "effects").isTruthy = true ∧ findings.errors = []) ∨
    (((Value.object card).get "effects").isTruthy = true ∧
      (∀ effects, (Value.object card).get "effects" ≠ .object effects) ∧
      ∃ id, findings = .fault id "effects must be an object keyed by trigger") ∨
    ∃ id effects found, (Value.object card).get "effects" = .object effects ∧
      effects.mapM (fun entry => checkTrigger id entry.1 entry.2) = .ok found ∧
      findings = .concat found := by
  unfold checkCard at checked
  generalize (Value.object card).get "effects" = given at checked
  dsimp only [Value.orElse] at checked
  by_cases present : given.isTruthy = true
  · rw [if_pos present] at checked
    cases given with
    | object effects =>
        obtain ⟨found, areChecked, same⟩ := bind_eq_ok.1 checked
        cases same
        exact .inr (.inr ⟨_, effects, found, rfl, areChecked, rfl⟩)
    | _ =>
        cases checked
        exact .inr (.inl ⟨present, fun effects => nofun, _, rfl⟩)
  · rw [if_neg present] at checked
    cases checked
    exact .inl ⟨present, rfl⟩

theorem errors_checkCard_eq_nil_iff (checked : checkCard (.object card) = .ok findings)
    (path : String) : findings.errors = [] ↔ EffectsPass path card := by
  unfold EffectsPass
  obtain ⟨absent, none⟩ | ⟨present, noObject, id, rfl⟩ |
    ⟨id, effects, found, given, areChecked, rfl⟩ := checkCard_cases checked
  · simp [none, absent]
  · refine ⟨fun none => (nomatch none), fun pass => ?_⟩
    obtain ⟨effects, given, -⟩ := pass present
    exact absurd given (noObject effects)
  · rw [Findings.errors_concat, List.flatMap_eq_nil_iff, given]
    constructor
    · intro none _
      refine ⟨effects, rfl, fun entry member => ?_⟩
      obtain ⟨own, isOwn, isChecked⟩ := exists_of_mapM areChecked member
      exact (errors_checkTrigger_eq_nil_iff isChecked).1 (none own isOwn)
    · intro pass own isOwn
      obtain ⟨entry, member, isChecked⟩ := exists_of_mem_mapM areChecked isOwn
      have present : (Value.object effects).isTruthy = true := by
        cases effects with
        | nil => cases member
        | cons => rfl
      obtain ⟨_, ⟨⟩, clean⟩ := pass present
      exact (errors_checkTrigger_eq_nil_iff isChecked).2 (clean entry member)

/-- What a card has wrong by itself does not read like the report of a repeated id. -/
theorem ne_repeatReport_of_mem_checkCard (checked : checkCard (.object card) = .ok findings)
    {error : String} (member : error ∈ findings.errors) (id : String) :
    error ≠ repeatReport id := by
  obtain ⟨-, none⟩ | ⟨-, -, front, rfl⟩ | ⟨front, effects, found, -, areChecked, rfl⟩ :=
    checkCard_cases checked
  · simp [none] at member
  · obtain rfl := List.mem_singleton.1 member
    exact tellsNoRepeat_of_endsBare (EndsBare.behind ⟨'r', rfl, rfl⟩ _) "" id
  · rw [Findings.errors_concat] at member
    obtain ⟨own, isOwn, inOwn⟩ := List.mem_flatMap.1 member
    obtain ⟨entry, -, isChecked⟩ := exists_of_mem_mapM areChecked isOwn
    by_cases present : entry.2.isTruthy = true
    · obtain ⟨deep, isDeep, same⟩ := errors_checkTrigger_of_present present isChecked
      obtain ⟨faults, tell, reports⟩ := localized_checkDefinition entry.2
      rw [same, reports _ deep isDeep] at inOwn
      obtain ⟨fault, isFault, rfl⟩ := List.mem_map.1 inOwn
      exact tell fault isFault _ id
    · rw [errors_checkTrigger_of_absent present isChecked] at inOwn
      cases inOwn

end Card

/-- What the check of a card by itself finds wrong. -/
def cardErrors (card : Fields) : List String :=
  match checkCard (.object card) with
  | .ok findings => findings.errors
  | .error _ => []

theorem cardErrors_of_checkCard {card : Fields} {findings : Findings}
    (checked : checkCard (.object card) = .ok findings) : cardErrors card = findings.errors := by
  rw [cardErrors, checked]

/-- The report that a card has no id. -/
def namelessReport : String :=
  "card without id"

/-- The cards that have no id, each with its report. -/
def namelessReports (cards : List Fields) : List String :=
  (cards.filter fun card => (cardId? card).isNone).map fun _ => namelessReport

/-- What is reported about the id of a card behind cards with these ids. -/
def idReports (seen : List String) (card : Fields) : List String :=
  match cardId? card with
  | none => [namelessReport]
  | some id => if id ∈ seen then [repeatReport id] else []

/-- The ids that a further card is compared with. -/
def noted (seen : List String) (card : Fields) : List String :=
  match cardId? card with
  | none => seen
  | some id => if id ∈ seen then seen else id :: seen

theorem checkId_eq {card : Fields} (isText : TextId card) (seen : List String) :
    checkId (seen.map .text) (.object card) =
      .ok ({ errors := idReports seen card }, (noted seen card).map .text) := by
  unfold idReports noted
  unfold TextId at isText
  unfold checkId cardId?
  generalize (Value.object card).get "id" = given at isText
  by_cases present : given.isTruthy = true
  · obtain ⟨id, rfl⟩ := isText present
    have named : id ≠ "" := by simpa [Value.isTruthy] using present
    have known : (seen.map Value.text).any (Value.sameMember (.text id)) = decide (id ∈ seen) := by
      rw [List.any_map, ← List.contains_eq_mem, ← List.any_beq]
      rfl
    have own : (Value.text id).text?.filter (· != "") = some id := by
      rw [Value.text?, Option.filter_some, if_pos (by simpa using named)]
    have isObject : ¬ (!(Value.object card).isObject) = true := Bool.false_ne_true
    have isThere : ¬ (!(Value.text id).isTruthy) = true := by simp [present]
    have isFlat : ¬ (Value.text id).isContainer = true := Bool.false_ne_true
    dsimp only
    rw [own, known, if_neg isObject, if_neg isThere, if_neg isFlat]
    by_cases member : id ∈ seen
    · simp only [member, decide_true, if_true]
      rfl
    · simp only [member, decide_false, if_false]
      rfl
  · have unnamed : given.text?.filter (· != "") = none := by
      cases given with
      | text id =>
          obtain rfl : id = "" := by simpa [Value.isTruthy] using present
          rfl
      | _ => rfl
    have isObject : ¬ (!(Value.object card).isObject) = true := Bool.false_ne_true
    dsimp only
    rw [unnamed, if_neg isObject, if_pos (by simpa using present)]
    rfl

/-- The errors of the first card come ahead of those of the cards behind it. -/
theorem checkCards_cons {card : Fields} {rest : List Fields} {seen : List String}
    {findings : Findings} (isText : TextId card)
    (checked : checkCards (seen.map .text) ((card :: rest).map .object) = .ok findings) :
    ∃ behind, checkCards ((noted seen card).map .text) (rest.map .object) = .ok behind ∧
      findings.errors = idReports seen card ++ cardErrors card ++ behind.errors := by
  rw [List.map_cons, checkCards, checkId_eq isText] at checked
  obtain ⟨_, ⟨⟩, goesOn⟩ := bind_eq_ok.1 checked
  obtain ⟨effects, isEffects, goesFurther⟩ := bind_eq_ok.1 goesOn
  obtain ⟨behind, isBehind, same⟩ := bind_eq_ok.1 goesFurther
  cases same
  refine ⟨behind, isBehind, ?_⟩
  rw [Findings.errors_append, Findings.errors_append, cardErrors_of_checkCard isEffects]

/-- The first card adds what is reported about its id. -/
theorem idReports_perm (seen : List String) (card : Fields) (rest : List Fields) :
    ((repeats seen (cardIds (card :: rest))).map repeatReport ++
      namelessReports (card :: rest)).Perm
      (idReports seen card ++
        ((repeats (noted seen card) (cardIds rest)).map repeatReport ++ namelessReports rest)) := by
  unfold idReports noted cardIds namelessReports
  cases known : cardId? card with
  | none =>
      rw [List.filterMap_cons_none known, List.filter_cons_of_pos (by rw [known]; rfl)]
      exact List.perm_middle
  | some id =>
      rw [List.filterMap_cons_some known, List.filter_cons_of_neg (by simp [known]), repeats]
      by_cases member : id ∈ seen
      · simp [member]
      · simp [member]

/-- What the check of cards finds wrong, in no order: the repeats of ids, the cards without
an id, and what each card has wrong by itself. -/
theorem errors_checkCards {cards : List Fields} (texts : ∀ card ∈ cards, TextId card)
    {seen : List String} {findings : Findings}
    (checked : checkCards (seen.map .text) (cards.map .object) = .ok findings) :
    findings.errors.Perm ((repeats seen (cardIds cards)).map repeatReport ++
      namelessReports cards ++ cards.flatMap cardErrors) := by
  -- Each card is checked behind other ids, which therefore vary.
  induction cards generalizing seen findings with
  | nil =>
      cases checked
      exact .refl _
  | cons card rest ih =>
      obtain ⟨behind, isBehind, errors⟩ := checkCards_cons (texts card List.mem_cons_self) checked
      have later := ih (fun other member => texts other (List.mem_cons_of_mem card member)) isBehind
      have first := idReports_perm seen card rest
      -- As multisets the three kinds of errors can be collected by addition.
      rw [← Multiset.coe_eq_coe] at later first ⊢
      rw [errors, List.flatMap_cons]
      simp only [← Multiset.coe_add] at later first ⊢
      rw [later, first]
      abel

/-- How many of the errors report a repeated id. -/
noncomputable def repeatCount (errors : List String) : Nat := by
  classical exact errors.countP fun error => ∃ id, error = repeatReport id

theorem ne_repeatReport_of_mem_cardErrors {card : Fields} {error : String}
    (member : error ∈ cardErrors card) (id : String) : error ≠ repeatReport id := by
  unfold cardErrors at member
  split at member
  · exact ne_repeatReport_of_mem_checkCard ‹_› member id
  · cases member

theorem ne_repeatReport_of_mem_namelessReports {cards : List Fields} {error : String}
    (member : error ∈ namelessReports cards) (id : String) : error ≠ repeatReport id := by
  obtain ⟨card, -, rfl⟩ := List.mem_map.1 member
  have bare : EndsBare namelessReport := ⟨'d', rfl, rfl⟩
  exact tellsNoRepeat_of_endsBare bare "" id

section Catalog

variable {cards : List Fields} {findings : Findings}

theorem errors_checkCatalog (texts : ∀ card ∈ cards, TextId card)
    (checked : checkCatalog (.list (cards.map .object)) = .ok findings) :
    findings.errors.Perm ((repeats [] (cardIds cards)).map repeatReport ++
      namelessReports cards ++ cards.flatMap cardErrors) :=
  @errors_checkCards cards texts [] findings checked

theorem repeatCount_errors (texts : ∀ card ∈ cards, TextId card)
    (checked : checkCatalog (.list (cards.map .object)) = .ok findings) :
    repeatCount findings.errors = (cardIds cards).length - (cardIds cards).toFinset.card := by
  classical
  have nameless : ∀ error ∈ namelessReports cards, ¬ ∃ id, error = repeatReport id :=
    fun error member ⟨id, same⟩ => ne_repeatReport_of_mem_namelessReports member id same
  have own : ∀ error ∈ cards.flatMap cardErrors, ¬ ∃ id, error = repeatReport id := by
    rintro error member ⟨id, same⟩
    obtain ⟨card, -, inCard⟩ := List.mem_flatMap.1 member
    exact ne_repeatReport_of_mem_cardErrors inCard id same
  rw [repeatCount, (errors_checkCatalog texts checked).countP_eq, List.countP_append,
    List.countP_append, List.countP_eq_length.2 (by simp),
    List.countP_eq_zero.2 (by simpa using nameless), List.countP_eq_zero.2 (by simpa using own),
    List.length_map, length_repeats]
  rfl

/-- The check of a card that belongs to a checked catalog was carried out. -/
theorem exists_checkCard_eq (checked : checkCatalog (.list (cards.map .object)) = .ok findings)
    {card : Fields} (member : card ∈ cards) : ∃ found, checkCard (.object card) = .ok found := by
  refine (failsIff_checkCard card).answers fun stuck => ?_
  have fails := (failsIff_checkCards cards []).fails ⟨card, member, .inr stuck⟩
  cases fails.symm.trans checked

theorem cardErrors_eq_nil_iff (checked : checkCatalog (.list (cards.map .object)) = .ok findings)
    {card : Fields} (member : card ∈ cards) (path : String) :
    cardErrors card = [] ↔ EffectsPass path card := by
  obtain ⟨found, isFound⟩ := exists_checkCard_eq checked member
  rw [cardErrors_of_checkCard isFound, errors_checkCard_eq_nil_iff isFound path]

theorem cardId?_eq_some_iff {card : Fields} {id : String} :
    cardId? card = some id ↔ (Value.object card).get "id" = .text id ∧ id ≠ "" := by
  unfold cardId?
  cases (Value.object card).get "id" with
  | text content => simp +contextual [Value.text?, Option.filter_eq_some_iff]
  | _ => simp [Value.text?]

theorem namelessReports_eq_nil_iff :
    namelessReports cards = [] ↔ ∀ card ∈ cards, ∃ id, cardId? card = some id := by
  simp [namelessReports, List.filter_eq_nil_iff, Option.ne_none_iff_exists']

theorem isValid_iff (texts : ∀ card ∈ cards, TextId card)
    (checked : checkCatalog (.list (cards.map .object)) = .ok findings) (path : String) :
    findings.isValid = true ↔
      (∀ card ∈ cards, ∃ id, cardId? card = some id) ∧ (cardIds cards).Nodup ∧
        ∀ card ∈ cards, EffectsPass path card := by
  have perm := errors_checkCatalog texts checked
  have none : findings.errors = [] ↔ (repeats [] (cardIds cards)).map repeatReport ++
      namelessReports cards ++ cards.flatMap cardErrors = [] := by
    rw [← List.length_eq_zero_iff, perm.length_eq, List.length_eq_zero_iff]
  rw [Findings.isValid, List.isEmpty_iff, none, List.append_eq_nil_iff, List.append_eq_nil_iff,
    List.map_eq_nil_iff, repeats_eq_nil_iff, namelessReports_eq_nil_iff, List.flatMap_eq_nil_iff]
  have each : (∀ card ∈ cards, cardErrors card = []) ↔ ∀ card ∈ cards, EffectsPass path card :=
    forall₂_congr fun card member => cardErrors_eq_nil_iff checked member path
  rw [each]
  tauto

/-- In another order, the same cards come to the same errors. -/
theorem exists_checkCatalog_perm (texts : ∀ card ∈ cards, TextId card)
    (checked : checkCatalog (.list (cards.map .object)) = .ok findings) {others : List Fields}
    (perm : others.Perm cards) :
    ∃ found, checkCatalog (.list (others.map .object)) = .ok found ∧
      found.errors.Perm findings.errors := by
  have answers := (failsIff_checkCards others []).answers fun ⟨card, member, stuck⟩ => by
    have fails := (failsIff_checkCards cards []).fails ⟨card, perm.mem_iff.1 member, stuck⟩
    cases fails.symm.trans checked
  obtain ⟨found, isFound⟩ := answers
  refine ⟨found, isFound, ?_⟩
  have textsThere : ∀ card ∈ others, TextId card :=
    fun card member => texts card (perm.mem_iff.1 member)
  refine (errors_checkCatalog textsThere isFound).trans
    (.trans ?_ (errors_checkCatalog texts checked).symm)
  refine (List.Perm.append ?_ ?_).append (perm.flatMap_right cardErrors)
  · exact (repeats_perm (perm.filterMap cardId?)).map repeatReport
  · exact (perm.filter _).map _

end Catalog

/-- A catalog is valid exactly if its cards are.  Where the check of a catalog of cards
whose ids are texts is carried out, it is valid exactly if all cards have an id, the ids are
distinct, and the definitions of each card have no errors, wherever they are checked.  Ids
are reported as often as they come beyond their first time; other orders of the cards come to
the same errors; and if errors are refused, these are, and nothing else is. -/
theorem catalogs_are_valid_iff_their_cards_are {cards : List Fields}
    (texts : ∀ card ∈ cards, TextId card) {findings : Findings}
    (checked : checkCatalog (.list (cards.map .object)) = .ok findings) (path : String) :
    (findings.isValid = true ↔
      (∀ card ∈ cards, ∃ id, (Value.object card).get "id" = .text id ∧ id ≠ "") ∧
      (cardIds cards).Nodup ∧ ∀ card ∈ cards, EffectsPass path card) ∧
    repeatCount findings.errors = (cardIds cards).length - (cardIds cards).toFinset.card ∧
    (∀ others : List Fields, others.Perm cards →
      ∃ found, checkCatalog (.list (others.map .object)) = .ok found ∧
        found.isValid = findings.isValid ∧ found.errors.Perm findings.errors) ∧
    (∀ failure, (checkCatalog (.list (cards.map .object)) >>= requireValid) = .error failure ↔
      findings.errors ≠ [] ∧ failure = .invalidDefinition findings.errors) ∧
    (findings.errors = [] →
      (checkCatalog (.list (cards.map .object)) >>= requireValid) = .ok findings) := by
  refine ⟨?valid, repeatCount_errors texts checked, ?reordered, ?refused, ?accepted⟩
  case valid =>
    rw [isValid_iff texts checked path]
    simp only [cardId?_eq_some_iff]
  case reordered =>
    intro others perm
    obtain ⟨found, isFound, same⟩ := exists_checkCatalog_perm texts checked perm
    exact ⟨found, isFound, same.isEmpty_eq, same⟩
  case refused =>
    intro failure
    rw [checked]
    change requireValid findings = _ ↔ _
    unfold requireValid Findings.isValid
    cases findings.errors with
    | nil => simp [pure, Except.pure]
    | cons first rest => simp [throw, throwThe, MonadExceptOf.throw, eq_comm]
  case accepted =>
    intro none
    rw [checked]
    change requireValid findings = _
    rw [requireValid, Findings.isValid, none]
    rfl

/-- Two wolves, one of them with an unknown effect, and a card without an id. -/
def wolves : List Fields :=
  [[("id", .text "wolf"), ("effects", .object [("onPlay", .object [("type", .text "bogus")])])],
    [("id", .text "wolf")], [("effects", .object [])]]

/-- What the check finds wrong with the wolves. -/
def wolfFindings : Findings :=
  { errors := ["wolf.onPlay: unknown effect type 'bogus'", "duplicate card id 'wolf'",
      "card without id"] }

/-- The catalog of wolves has two cards with an id and one id, and is refused in any order. -/
theorem wolves_are_no_valid_catalog :
    ((∀ card ∈ wolves, TextId card) ∧
      checkCatalog (.list (wolves.map .object)) = .ok wolfFindings) ∧
    wolfFindings.isValid = false ∧ ¬ (cardIds wolves).Nodup ∧
    repeatCount wolfFindings.errors = 1 ∧
    (∃ found, checkCatalog (.list (wolves.reverse.map .object)) = .ok found ∧
      found.errors.Perm wolfFindings.errors) ∧
    (checkCatalog (.list (wolves.map .object)) >>= requireValid) =
      .error (.invalidDefinition wolfFindings.errors) := by
  have texts : ∀ card ∈ wolves, TextId card := by
    simp only [wolves, List.forall_mem_cons]
    exact ⟨fun _ => ⟨_, rfl⟩, fun _ => ⟨_, rfl⟩, nofun, List.forall_mem_nil _⟩
  have checked : checkCatalog (.list (wolves.map .object)) = .ok wolfFindings := by cbv
  obtain ⟨-, repeated, reordered, refused, -⟩ :=
    catalogs_are_valid_iff_their_cards_are texts checked "effect"
  obtain ⟨found, isFound, -, same⟩ := reordered wolves.reverse wolves.reverse_perm
  refine ⟨⟨texts, checked⟩, rfl, by decide, ?_, ⟨found, isFound, same⟩, ?_⟩
  · rw [repeated]
    decide
  · exact (refused _).2 ⟨List.cons_ne_nil _ _, rfl⟩

end Validation

end CreatureCards
