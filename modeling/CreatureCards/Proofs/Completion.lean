import CreatureCards.Proofs.Adoption

/-!
# Runs that succeed

A run succeeds if it never breaks off on admitted boards, as long as a number can be drawn
where one is needed.  Succeeding is closed under everything that runs are built from.
-/

namespace CreatureCards

open Engine

/-- There are numbers to draw. -/
def RandomSource.IsUsable : RandomSource → Prop
  | scripted numbers _ => numbers ≠ []
  | twister _ => True

theorem Twister.drawBelow_lt {bound tries : Nat} (positive : 0 < bound) (patient : 0 < tries)
    (state : Twister) : (drawBelow bound tries state).1 < bound := by
  induction tries generalizing state with
  | zero => exact absurd patient (Nat.lt_irrefl 0)
  | succ tries ih =>
      rw [drawBelow]
      dsimp only
      split
      · assumption
      · split
        · exact Nat.mod_lt _ positive
        · exact ih (Nat.pos_of_ne_zero ‹_›) _

/-- From a pool that is not empty some place can be drawn. -/
theorem RandomSource.exists_draw {source : RandomSource} (usable : source.IsUsable) {size : Nat}
    (positive : 0 < size) :
    ∃ number next, source.draw size = .ok (number, next) ∧ next.IsUsable ∧ number.toNat < size := by
  cases source with
  | scripted numbers drawn =>
      have place : drawn % numbers.length < numbers.length :=
        Nat.mod_lt _ (List.length_pos_iff.2 usable)
      have nonzero : (size : Int) ≠ 0 := by omega
      have nonneg : 0 ≤ (numbers[drawn % numbers.length]).fmod size :=
        Int.fmod_nonneg_of_pos _ (by omega)
      have below : (numbers[drawn % numbers.length]).fmod size < size :=
        Int.fmod_lt_of_pos _ (by omega)
      refine ⟨(numbers[drawn % numbers.length]).fmod size, scripted numbers (drawn + 1), ?_,
        usable, by omega⟩
      rw [draw, List.getElem?_eq_getElem place]
      dsimp only
      rw [if_neg nonzero]
  | twister state =>
      have patient : 0 < patience := by decide
      have below := Twister.drawBelow_lt positive patient state
      refine ⟨(state.drawBelow size patience).1, twister (state.drawBelow size patience).2, ?_,
        trivial, by simpa using below⟩
      rw [draw, if_neg (by omega), Int.toNat_natCast]

/-- On admitted boards, whenever there are numbers to draw, the run comes to something good
and leaves numbers to draw. -/
def Succeeds {α : Type} (admits : Board → Prop) (good : α → Prop) (running : Engine α) : Prop :=
  ∀ board, admits board → ∀ session : Session, session.random.IsUsable →
    ∃ value after, running board session = (.ok value, after) ∧ after.random.IsUsable ∧ good value

namespace Succeeds

variable {α β : Type} {admits : Board → Prop} {good : α → Prop} {goodNext : β → Prop}

theorem pure {value : α} (isGood : good value) :
    Succeeds admits good (Pure.pure value : Engine α) :=
  fun _ _ session usable => ⟨value, session, rfl, usable, isGood⟩

theorem bind {running : Engine α} {next : α → Engine β} (first : Succeeds admits good running)
    (each : ∀ value, good value → Succeeds admits goodNext (next value)) :
    Succeeds admits goodNext (running >>= next) := by
  intro board admitted session usable
  obtain ⟨value, after, ran, usableAfter, isGood⟩ := first board admitted session usable
  rw [bind_of_ok ran]
  exact each value isGood board admitted after usableAfter

theorem weaken {wider : α → Prop} {running : Engine α} (succeeds : Succeeds admits good running)
    (each : ∀ value, good value → wider value) : Succeeds admits wider running := by
  intro board admitted session usable
  obtain ⟨value, after, ran, usableAfter, isGood⟩ := succeeds board admitted session usable
  exact ⟨value, after, ran, usableAfter, each value isGood⟩

theorem ite {condition : Prop} [Decidable condition] {running otherwise : Engine α}
    (whenTrue : condition → Succeeds admits good running)
    (whenFalse : ¬ condition → Succeeds admits good otherwise) :
    Succeeds admits good (if condition then running else otherwise) := by
  split
  · exact whenTrue ‹_›
  · exact whenFalse ‹_›

/-- What is read off an admitted board is used. -/
theorem reading {next : Board → Engine α}
    (each : ∀ board, admits board → Succeeds admits good (next board)) :
    Succeeds admits good (Engine.board >>= next) := by
  have looking : Succeeds admits admits Engine.board :=
    fun board admitted session usable => ⟨board, session, rfl, usable, admitted⟩
  exact looking.bind each

theorem announce (message : String) : Succeeds admits (fun _ => True) (Engine.announce message) :=
  fun _ _ session usable => ⟨(), session.announce message, rfl, usable, trivial⟩

/-- A message is told, and then something else happens. -/
theorem telling {message : String} {next : Unit → Engine α}
    (later : Succeeds admits good (next ())) :
    Succeeds admits good (Engine.announce message >>= next) :=
  (announce message).bind fun _ _ => later

theorem warning {warning : Warning} {next : Unit → Engine α}
    (later : Succeeds admits good (next ())) :
    Succeeds admits good (Engine.warn warning >>= next) := by
  have warned : Succeeds admits (fun _ => True) (Engine.warn warning) :=
    fun _ _ session usable => ⟨(), session.warn warning, rfl, usable, trivial⟩
  exact warned.bind fun _ _ => later

/-- One of a pool that is not empty is drawn. -/
theorem drawing {size : Nat} {next : Int → Engine α} (positive : 0 < size)
    (each : ∀ number, number.toNat < size → Succeeds admits good (next number)) :
    Succeeds admits good (Engine.draw size >>= next) := by
  have drawn : Succeeds admits (fun number : Int => number.toNat < size) (Engine.draw size) := by
    intro board _ session usable
    obtain ⟨number, random, draws, usableAfter, below⟩ := RandomSource.exists_draw usable positive
    refine ⟨number, { session with random }, ?_, usableAfter, below⟩
    rw [draw_eq, draws]
  exact drawn.bind each

theorem orFail {made : Except Failure α} {value : α} (isMade : made = .ok value)
    (isGood : good value) : Succeeds admits good (Engine.orFail made) := by
  rw [isMade]
  exact .pure isGood

/-- Something is made without failing, and used. -/
theorem making {made : Except Failure β} {next : β → Engine α} {value : β}
    (isMade : made = .ok value) (later : Succeeds admits good (next value)) :
    Succeeds admits good (Engine.orFail made >>= next) := by
  rw [isMade]
  exact later

/-- A part that is there is used. -/
theorem requiring {part : Option β} {next : β → Engine α} {value : β} (found : part = some value)
    (later : Succeeds admits good (next value)) :
    Succeeds admits good (Engine.require part >>= next) := by
  rw [found]
  exact later

theorem settings (context : Context) : Succeeds admits (fun _ => True) context.settings :=
  fun _ _ session usable => ⟨_, session, rfl, usable, trivial⟩

/-- A derived context differs in the resolver at most. -/
theorem derived (context : Context) :
    Succeeds admits (fun derived => ∃ resolver, derived = { context with resolver })
      context.derived :=
  fun _ _ session usable => ⟨_, session, rfl, usable, _, rfl⟩

/-- A context that a resolver begins to work on differs in the resolver at most. -/
theorem adopt (context : Context) (settings : Settings) :
    Succeeds admits (fun adopted => ∃ resolver, adopted = { context with resolver })
      (context.adopt settings) := by
  intro board _ session usable
  obtain ⟨after, adopted, -, records⟩ := context.exists_adopted settings board session
  exact ⟨_, after, adopted, records.random ▸ usable, _, rfl⟩

theorem mapM {entries : List α} {run : α → Engine β}
    (each : ∀ entry ∈ entries, Succeeds admits goodNext (run entry)) :
    Succeeds admits (fun results => ∀ result ∈ results, goodNext result) (entries.mapM run) := by
  induction entries with
  | nil => exact .pure (by simp)
  | cons entry rest ih =>
      obtain ⟨here, later⟩ := List.forall_mem_cons.1 each
      rw [List.mapM_cons]
      refine here.bind fun result isGood => (ih later).bind fun results areGood => .pure ?_
      exact List.forall_mem_cons.2 ⟨isGood, areGood⟩

theorem forM {entries : List α} {run : α → Engine Unit}
    (each : ∀ entry ∈ entries, Succeeds admits (fun _ => True) (run entry)) :
    Succeeds admits (fun _ => True) (entries.forM run) := by
  induction entries with
  | nil => exact .pure trivial
  | cons entry rest ih =>
      obtain ⟨here, later⟩ := List.forall_mem_cons.1 each
      change Succeeds admits _ (run entry >>= fun _ => rest.forM run)
      exact here.bind fun _ _ => ih later

end Succeeds

end CreatureCards
