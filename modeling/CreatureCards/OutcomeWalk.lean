import CreatureCards.OutcomeMerge

/-!
# Walking an outcome

A walk asks the questions of an outcome one at a time.  What can be applied at
once is collected in order, stripped of questions at every depth; the questions
found on the way wait in a queue, with those that an answer opens in front of
those that were waiting before.  Answering may fail; the walk then keeps what
was collected and what is still waiting, but has no current question.

The queue can be settled because each result taken from it makes way for parts
of itself only: the weight of the queue goes down.
-/

namespace CreatureCards

namespace Outcome

mutual

/-- The number of records in an outcome, questions counted as records and
continuations left out. -/
def weight : Outcome → Nat
  | list items => weightItems items
  | record fields => weightFields fields + 1
  | question _ _ => 1
  | _ => 0

def weightItems : List Outcome → Nat
  | [] => 0
  | item :: rest => item.weight + weightItems rest

def weightFields : List (String × Outcome) → Nat
  | [] => 0
  | (_, payload) :: rest => payload.weight + weightFields rest

end

/-- A result taken apart: what can be applied at once, and the prompting parts
of the record and of the records kept inside it, in order. -/
structure Stripped where
  immediate : Descriptors
  prompting : Descriptors
  inner : List Descriptors

/-- The prompting parts in the order in which they are to be dealt with. -/
def Stripped.waiting (stripped : Stripped) : List Descriptors :=
  if stripped.prompting.isEmpty then stripped.inner else stripped.prompting :: stripped.inner

/-- Takes data that stands for kept results apart: null and the empty text keep
none. -/
def stripData : Value → Except Failure (List Outcome × List Descriptors)
  | .null => .ok ([], [])
  | .text content => if content == "" then .ok ([], []) else .error .missingPart
  | _ => .error .wrongKind

mutual

def strip : Outcome → Except Failure Stripped
  | record fields => stripFields fields
  | _ => .error .missingPart

def stripFields : List (String × Outcome) → Except Failure Stripped
  | [] => .ok ⟨[], [], []⟩
  | (key, payload) :: rest => do
    let stripped ← stripFields rest
    if chainKeys.contains key then
      return { stripped with prompting := (key, payload) :: stripped.prompting }
    else if key = compositeKey then
      let (kept, inner) ← stripEntries payload
      return { stripped with
        immediate := if kept.isEmpty then stripped.immediate
          else (key, list kept) :: stripped.immediate
        inner := inner ++ stripped.inner }
    else return { stripped with immediate := (key, payload) :: stripped.immediate }

/-- Takes the results that a record keeps apart; entries left empty are
dropped. -/
def stripEntries : Outcome → Except Failure (List Outcome × List Descriptors)
  | list items => stripItems items
  | record fields => if fields.isEmpty then .ok ([], []) else .error .missingPart
  | value data => stripData data
  | _ => .error .wrongKind

def stripItems : List Outcome → Except Failure (List Outcome × List Descriptors)
  | [] => .ok ([], [])
  | item :: rest => do
    let stripped ← strip item
    let (kept, inner) ← stripItems rest
    return (if stripped.immediate.isEmpty then kept else record stripped.immediate :: kept,
      stripped.waiting ++ inner)

end

/-- What a prompting part puts into the queue: its questions, then the results
that wait for them. -/
def upcoming (prompt : Descriptors) : Except Failure (List Outcome) := do
  let questions := questionKeys.filterMap fun key => prompt.lookup key
  match prompt.lookup pendingKey with
  | some payload => return questions ++ (← payload.elements)
  | none => return questions

def upcomingAll : List Descriptors → Except Failure (List Outcome)
  | [] => .ok []
  | prompt :: rest => do return (← upcoming prompt) ++ (← upcomingAll rest)

theorem weightItems_append (first second : List Outcome) :
    weightItems (first ++ second) = weightItems first + weightItems second := by
  induction first with
  | nil => simp [weightItems]
  | cons item rest ih => simp [weightItems, ih, Nat.add_assoc]

theorem weightItems_eq_zero {items : List Outcome}
    (weightless : ∀ item ∈ items, item.weight = 0) : weightItems items = 0 := by
  induction items with
  | nil => simp [weightItems]
  | cons item rest ih =>
    simp [weightItems, weightless item (by simp),
      ih fun other member => weightless other (by simp [member])]

/-- Stepping through an outcome meets parts of it only. -/
theorem weight_elements {outcome : Outcome} {items : List Outcome}
    (stepped : outcome.elements = .ok items) : weightItems items ≤ outcome.weight := by
  cases outcome with
  | list entries =>
    cases stepped
    simp [weight]
  | record fields =>
    cases stepped
    rw [weightItems_eq_zero]
    · exact Nat.zero_le _
    · intro item member
      obtain ⟨field, -, rfl⟩ := List.mem_map.1 member
      simp [text, weight]
  | value data =>
    simp only [elements] at stepped
    cases inner : data.elements? with
    | none => simp [inner] at stepped
    | some entries =>
      simp only [inner, Option.map_some, Option.elim_some, Except.ok.injEq] at stepped
      subst stepped
      rw [weightItems_eq_zero]
      · exact Nat.zero_le _
      · intro item member
        obtain ⟨entry, -, rfl⟩ := List.mem_map.1 member
        simp [weight]
  | card _ => cases stepped
  | player _ => cases stepped
  | ref _ => cases stepped
  | question _ _ => cases stepped
  | callback _ => cases stepped

def weightParts : List Descriptors → Nat
  | [] => 0
  | part :: parts => weightFields part + weightParts parts

theorem weightParts_append (first second : List Descriptors) :
    weightParts (first ++ second) = weightParts first + weightParts second := by
  induction first with
  | nil => simp [weightParts]
  | cons part _ ih => simp [weightParts, ih, Nat.add_assoc]

theorem weightParts_waiting (stripped : Stripped) :
    weightParts stripped.waiting ≤ weightFields stripped.prompting +
      weightParts stripped.inner := by
  rw [Stripped.waiting]
  split
  · exact Nat.le_add_left _ _
  · simp [weightParts]

/-- Data keeps no prompting parts. -/
theorem weight_stripData (data : Value) (parts : List Outcome × List Descriptors)
    (taken : stripData data = .ok parts) : weightParts parts.2 = 0 := by
  cases data with
  | null =>
    cases taken
    simp [weightParts]
  | text content =>
    simp only [stripData] at taken
    split at taken
    · cases taken
      simp [weightParts]
    · cases taken
  | _ => cases taken

mutual

theorem weight_strip : ∀ (outcome : Outcome) (stripped : Stripped),
    strip outcome = .ok stripped →
      weightFields stripped.prompting + weightParts stripped.inner < outcome.weight
  | record fields, stripped, taken => by
    have bound := weight_stripFields fields stripped (by simpa [strip] using taken)
    simpa [weight] using Nat.lt_succ_of_le bound
  | list _, _, taken => by simp [strip] at taken
  | value _, _, taken => by simp [strip] at taken
  | card _, _, taken => by simp [strip] at taken
  | player _, _, taken => by simp [strip] at taken
  | ref _, _, taken => by simp [strip] at taken
  | question _ _, _, taken => by simp [strip] at taken
  | callback _, _, taken => by simp [strip] at taken

theorem weight_stripFields : ∀ (fields : List (String × Outcome)) (stripped : Stripped),
    stripFields fields = .ok stripped →
      weightFields stripped.prompting + weightParts stripped.inner ≤ weightFields fields
  | [], stripped, taken => by
    simp only [stripFields, Except.ok.injEq] at taken
    subst taken
    simp [weightFields, weightParts]
  | (key, payload) :: rest, stripped, taken => by
    simp only [stripFields, bind, Except.bind] at taken
    cases found : stripFields rest with
    | error failure => simp [found] at taken
    | ok remaining =>
      have bound := weight_stripFields rest remaining found
      simp only [found] at taken
      split at taken
      · simp only [pure, Except.pure, Except.ok.injEq] at taken
        subst taken
        simp only [weightFields]
        omega
      · split at taken
        · cases entries : stripEntries payload with
          | error failure => simp [entries] at taken
          | ok parts =>
            have inside := weight_stripEntries payload parts entries
            simp only [entries, pure, Except.pure, Except.ok.injEq] at taken
            subst taken
            simp only [weightFields, weightParts_append]
            omega
        · simp only [pure, Except.pure, Except.ok.injEq] at taken
          subst taken
          simp only [weightFields]
          omega

theorem weight_stripEntries : ∀ (payload : Outcome) (parts : List Outcome × List Descriptors),
    stripEntries payload = .ok parts → weightParts parts.2 ≤ payload.weight
  | list items, parts, taken => by
    simpa [weight] using weight_stripItems items parts (by simpa [stripEntries] using taken)
  | record fields, parts, taken => by
    simp only [stripEntries] at taken
    split at taken
    · cases taken
      simp [weightParts]
    · cases taken
  | value data, parts, taken => by
    rw [stripEntries] at taken
    rw [weight_stripData data parts taken]
    exact Nat.zero_le _
  | card _, _, taken => by simp [stripEntries] at taken
  | player _, _, taken => by simp [stripEntries] at taken
  | ref _, _, taken => by simp [stripEntries] at taken
  | question _ _, _, taken => by simp [stripEntries] at taken
  | callback _, _, taken => by simp [stripEntries] at taken

theorem weight_stripItems : ∀ (items : List Outcome) (parts : List Outcome × List Descriptors),
    stripItems items = .ok parts → weightParts parts.2 ≤ weightItems items
  | [], parts, taken => by
    simp only [stripItems, Except.ok.injEq] at taken
    subst taken
    simp [weightParts]
  | item :: rest, parts, taken => by
    simp only [stripItems, bind, Except.bind] at taken
    cases first : strip item with
    | error failure => simp [first] at taken
    | ok stripped =>
      have bound := weight_strip item stripped first
      simp only [first] at taken
      cases others : stripItems rest with
      | error failure => simp [others] at taken
      | ok remaining =>
        have behind := weight_stripItems rest remaining others
        simp only [others, pure, Except.pure, Except.ok.injEq] at taken
        subst taken
        have ahead := weightParts_waiting stripped
        simp only [weightItems, weightParts_append]
        omega

end

/-- Weight of the payload under a key. -/
def weightAt (fields : Descriptors) (key : String) : Nat :=
  ((fields.lookup key).map weight).getD 0

theorem weightAt_cons (key name : String) (payload : Outcome) (rest : Descriptors) :
    weightAt ((name, payload) :: rest) key =
      if key = name then payload.weight else weightAt rest key := by
  by_cases same : key = name
  · simp [weightAt, same]
  · have differs : (key == name) = false := by simp [same]
    simp [weightAt, List.lookup_cons, differs, same]

/-- Payloads under different keys weigh no more together than the record. -/
theorem weightAt_add_le {first second third : String} (fields : Descriptors)
    (h₁ : first ≠ second) (h₂ : first ≠ third) (h₃ : second ≠ third) :
    weightAt fields first + weightAt fields second + weightAt fields third ≤
      weightFields fields := by
  induction fields with
  | nil => simp [weightAt]
  | cons field rest ih =>
    obtain ⟨name, payload⟩ := field
    simp only [weightAt_cons, weightFields]
    by_cases a : first = name
    · subst a
      simp only [if_true, h₁.symm, h₂.symm, if_false]
      omega
    · by_cases b : second = name
      · subst b
        simp only [if_true, h₁, h₃.symm, if_false]
        omega
      · by_cases c : third = name
        · subst c
          simp only [if_true, h₂, h₃, if_false]
          omega
        · simp only [a, b, c, if_false]
          omega

/-- What a prompting part puts into the queue weighs no more than the part. -/
theorem weight_upcoming {prompt : Descriptors} {items : List Outcome}
    (found : upcoming prompt = .ok items) : weightItems items ≤ weightFields prompt := by
  have total := @weightAt_add_le "select_target" "select_option" pendingKey prompt
    (by decide) (by decide) (by decide)
  have questions : weightItems (questionKeys.filterMap fun key => prompt.lookup key) =
      weightAt prompt "select_target" + weightAt prompt "select_option" := by
    cases target : prompt.lookup "select_target" <;>
      cases option : prompt.lookup "select_option" <;>
        simp [questionKeys, weightAt, target, option, weightItems]
  simp only [upcoming, bind, Except.bind] at found
  cases pending : prompt.lookup pendingKey with
  | none =>
    simp only [pending, pure, Except.pure, Except.ok.injEq] at found
    subst found
    omega
  | some payload =>
    simp only [pending] at found
    have behind : weightAt prompt pendingKey = payload.weight := by simp [weightAt, pending]
    cases stepped : payload.elements with
    | error failure => simp [stepped] at found
    | ok entries =>
      simp only [stepped, pure, Except.pure, Except.ok.injEq] at found
      subst found
      have inside := weight_elements stepped
      rw [weightItems_append]
      omega

theorem weight_upcomingAll {parts : List Descriptors} {items : List Outcome}
    (found : upcomingAll parts = .ok items) : weightItems items ≤ weightParts parts := by
  induction parts generalizing items with
  | nil =>
    simp only [upcomingAll, Except.ok.injEq] at found
    subst found
    simp [weightItems]
  | cons part rest ih =>
    simp only [upcomingAll, bind, Except.bind] at found
    cases first : upcoming part with
    | error failure => simp [first] at found
    | ok ahead =>
      simp only [first] at found
      cases others : upcomingAll rest with
      | error failure => simp [others] at found
      | ok behind =>
        simp only [others, pure, Except.pure, Except.ok.injEq] at found
        subst found
        have h₁ := weight_upcoming first
        have h₂ := ih others
        rw [weightItems_append]
        simp only [weightParts] at h₂ ⊢
        omega

end Outcome

/-- The state of a walk. -/
structure Walk where
  /-- What can be applied, in order. -/
  applied : List Outcome := []
  /-- Questions and results that wait. -/
  queue : List Outcome := []
  current : Option Question := none

namespace Walk

def isDone (walk : Walk) : Bool :=
  walk.current.isNone

/-- The number of results that wait, the current question included. -/
def remaining (walk : Walk) : Nat :=
  walk.queue.length + if walk.isDone then 0 else 1

/-- Collects what of a result can be applied at once and puts the rest of it in
front of the queue. -/
def absorb (walk : Walk) (outcome : Outcome) : Walk × Option Failure :=
  match outcome.strip with
  | .error failure => (walk, some failure)
  | .ok stripped =>
    let collected := { walk with
      applied := if stripped.immediate.isEmpty then walk.applied
        else walk.applied ++ [.record stripped.immediate] }
    match Outcome.upcomingAll stripped.waiting with
    | .error failure => (collected, some failure)
    | .ok items => ({ collected with queue := items ++ walk.queue }, none)

/-- A result makes way for parts of itself. -/
theorem weight_absorb {walk next : Walk} {outcome : Outcome}
    (absorbed : walk.absorb outcome = (next, none)) :
    Outcome.weightItems next.queue < outcome.weight + Outcome.weightItems walk.queue := by
  simp only [absorb] at absorbed
  split at absorbed
  · simp at absorbed
  · rename_i stripped taken
    have bound := Outcome.weight_strip _ _ taken
    have ahead := Outcome.weightParts_waiting stripped
    split at absorbed
    · simp at absorbed
    · rename_i items found
      have inside := Outcome.weight_upcomingAll found
      simp only [Prod.mk.injEq, and_true] at absorbed
      subst absorbed
      simp only [Outcome.weightItems_append]
      omega

/-- Takes results from the queue until a question is open or nothing waits. -/
def settle (walk : Walk) : Walk × Option Failure :=
  match walk.current with
  | some _ => (walk, none)
  | none =>
    match waiting : walk.queue with
    | [] => (walk, none)
    | item :: rest =>
      match item.question? with
      | some question => ({ walk with current := some question, queue := rest }, none)
      | none =>
        match absorbed : ({ walk with queue := rest } : Walk).absorb item with
        | (next, some failure) => (next, some failure)
        | (next, none) =>
          have smaller : Outcome.weightItems next.queue < Outcome.weightItems walk.queue := by
            rw [waiting, Outcome.weightItems]
            exact weight_absorb absorbed
          settle next
termination_by Outcome.weightItems walk.queue

/-- Takes a result apart and goes on to the next question. -/
def take (walk : Walk) (outcome : Outcome) : Walk × Option Failure :=
  match walk.absorb outcome with
  | (next, some failure) => (next, some failure)
  | (next, none) => next.settle

/-- The walk through an outcome, up to its first question. -/
def start (outcome : Outcome) : Except Failure Walk :=
  match ({} : Walk).take outcome.orNothing with
  | (_, some failure) => .error failure
  | (walk, none) => .ok walk

/-- What an answer to the current question came to is taken in, and the walk goes on
to the next question.  The result is what the answer added to what can be applied. -/
def reply (walk : Walk) (answered : Except Failure Outcome) : Except Failure Outcome × Walk :=
  let opened := { walk with current := none }
  match answered with
  | .error failure => (.error failure, opened)
  | .ok outcome =>
    match opened.take outcome.orNothing with
    | (next, some failure) => (.error failure, next)
    | (next, none) => ((Outcome.combine (next.applied.drop walk.applied.length)).map .record, next)

/-- Answers the current question, on a board that stays as it is. -/
def submit (walk : Walk) (choice : Choice) (board : Board) (session : Session) :
    (Except Failure Outcome × Walk) × Session :=
  match walk.current with
  | none => ((.error .nothingPending, walk), session)
  | some question =>
    let ran := question.answer choice board session
    (walk.reply ran.1, ran.2)

/-- Answers the current question in a game. -/
def answering (walk : Walk) (choice : Choice) : Engine (Except Failure Outcome × Walk) :=
  match walk.current with
  | none => return (.error .nothingPending, walk)
  | some question => do return walk.reply (← (question.answer choice).attempt)

/-- Answers one question after the other, whatever becomes of the answers. -/
def answeringAll (walk : Walk) : List Choice → Engine Walk
  | [] => return walk
  | choice :: rest => do
    let (_, next) ← walk.answering choice
    next.answeringAll rest

def candidates (walk : Walk) (board : Board) : Except Failure (List Candidate) :=
  match walk.current with
  | some ⟨.pick pick, _⟩ => pick.source.candidates board
  | _ => .ok []

end Walk

end CreatureCards
