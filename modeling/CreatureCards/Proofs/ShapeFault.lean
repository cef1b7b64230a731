import CreatureCards.OutcomeWalk

/-!
# Faults of shape

Merging outcomes and walking through them takes records apart and puts lists
together.  Where an outcome does not have the shape of a result this fails, and
it fails in no other way: whatever else breaks off was broken off by an effect.
-/

namespace CreatureCards

/-- Something did not have the shape that it is taken apart by. -/
def Failure.IsShapeFault : Failure → Prop
  | .wrongKind | .missingPart | .badValue => True
  | _ => False

/-- The computation succeeds, or fails in one of the given ways. -/
def FailsOnly {α : Type} (fault : Failure → Prop) (made : Except Failure α) : Prop :=
  ∀ failure, made = .error failure → fault failure

namespace FailsOnly

variable {α β : Type} {fault : Failure → Prop}

theorem ok (value : α) : FailsOnly fault (.ok value) :=
  fun _ failed => nomatch failed

theorem error {failure : Failure} (known : fault failure) :
    FailsOnly fault (.error failure : Except Failure α) := by
  rintro _ ⟨⟩
  exact known

theorem bind {first : Except Failure α} {next : α → Except Failure β}
    (here : FailsOnly fault first)
    (each : ∀ value, first = .ok value → FailsOnly fault (next value)) :
    FailsOnly fault (first >>= next) := by
  cases first with
  | error failure => exact .error (here failure rfl)
  | ok value => exact each value rfl

theorem ite {condition : Prop} [Decidable condition] {made otherwise : Except Failure α}
    (whenTrue : FailsOnly fault made) (whenFalse : FailsOnly fault otherwise) :
    FailsOnly fault (if condition then made else otherwise) := by
  split
  · exact whenTrue
  · exact whenFalse

theorem map {made : Except Failure α} (here : FailsOnly fault made) (view : α → β) :
    FailsOnly fault (made.map view) := by
  cases made with
  | error failure => exact .error (here failure rfl)
  | ok value => exact .ok _

theorem mapM {entries : List α} {make : α → Except Failure β}
    (each : ∀ entry ∈ entries, FailsOnly fault (make entry)) :
    FailsOnly fault (entries.mapM make) := by
  induction entries with
  | nil => exact .ok []
  | cons entry rest ih =>
      obtain ⟨here, later⟩ := List.forall_mem_cons.1 each
      rw [List.mapM_cons]
      exact here.bind fun _ _ => (ih later).bind fun _ _ => .ok _

theorem foldlM {entries : List α} {step : β → α → Except Failure β}
    (each : ∀ state entry, FailsOnly fault (step state entry)) (start : β) :
    FailsOnly fault (entries.foldlM step start) := by
  induction entries generalizing start with
  | nil => exact .ok start
  | cons entry rest ih =>
      rw [List.foldlM_cons]
      exact (each start entry).bind fun next _ => ih next

theorem weaken {wider : Failure → Prop} {made : Except Failure α}
    (here : FailsOnly fault made) (known : ∀ failure, fault failure → wider failure) :
    FailsOnly wider made :=
  fun failure failed => known failure (here failure failed)

end FailsOnly

/-- The computation succeeds unless something does not have the shape that it is
taken apart by. -/
abbrev Shapely {α : Type} (made : Except Failure α) : Prop :=
  FailsOnly Failure.IsShapeFault made

namespace Outcome

theorem shapely_elements (outcome : Outcome) : Shapely outcome.elements := by
  cases outcome with
  | list items => exact .ok items
  | record fields => exact .ok _
  | value data =>
      rw [elements]
      cases data.elements? with
      | none =>
          rw [Option.map_none, Option.elim_none]
          exact .error trivial
      | some items => exact .ok _
  | _ => exact .error trivial

theorem shapely_mentions (key : String) (outcome : Outcome) : Shapely (outcome.mentions key) := by
  unfold mentions
  split
  · exact .ok _
  · exact .ok _
  · exact .ok _
  · exact .error trivial

theorem shapely_asks (outcome : Outcome) : Shapely outcome.asks := by
  unfold asks
  exact .ite (.ok false) <| (shapely_mentions _ outcome).bind fun _ _ =>
    .ite (.ok true) (shapely_mentions _ outcome)

theorem shapely_fields (outcome : Outcome) : Shapely outcome.fields := by
  cases outcome with
  | record fields => exact .ok fields
  | _ => exact .error trivial

theorem shapely_isKeyOf (merged : Descriptors) (key : Outcome) :
    Shapely (isKeyOf merged key) := by
  unfold isKeyOf
  split
  all_goals first | exact .ok _ | exact .error trivial

theorem shapely_anyKeyOf (merged : Descriptors) (keys : List Outcome) :
    Shapely (anyKeyOf merged keys) := by
  induction keys with
  | nil => exact .ok false
  | cons key rest ih =>
      unfold anyKeyOf
      exact (shapely_isKeyOf merged key).bind fun _ _ => .ite (.ok true) ih

theorem shapely_pair (outcome : Outcome) : Shapely outcome.pair := by
  unfold pair
  split
  · split
    · exact .ok _
    · exact .error trivial
  · exact .error trivial

theorem shapely_addTo (merged : Descriptors) (outcome : Outcome) :
    Shapely (addTo merged outcome) := by
  unfold addTo
  split
  · exact .ok _
  · exact (shapely_elements _).bind fun items _ =>
      (FailsOnly.mapM fun item _ => shapely_pair item).bind fun _ _ => .ok _

theorem shapely_add (merging : Merging) (result : Outcome) : Shapely (merging.add result) := by
  unfold Merging.add
  refine .ite (.ok merging) <| (shapely_elements result).bind fun keys _ => ?_
  exact (shapely_anyKeyOf _ keys).bind fun _ _ =>
    .ite (.ok _) <| (shapely_addTo _ result).bind fun _ _ => .ok _

theorem shapely_finish (merging : Merging) : Shapely merging.finish := by
  unfold Merging.finish
  refine .ite (.ok _) ?_
  split
  · exact (shapely_elements _).bind fun _ _ => .ok _
  · exact (FailsOnly.ok []).bind fun _ _ => .ok _

theorem shapely_combine (results : List Outcome) : Shapely (combine results) :=
  (FailsOnly.foldlM shapely_add {}).bind fun merging _ => shapely_finish merging

theorem shapely_queued (fields : Descriptors) (behind : List Outcome) :
    Shapely (queued fields behind) := by
  unfold queued
  split
  · exact (shapely_elements _).bind fun _ _ => .ok _
  · exact (FailsOnly.ok []).bind fun _ _ => .ok _

theorem shapely_advance (result : Outcome) (pending : List Outcome) :
    Shapely (advance result pending) := by
  unfold advance
  split
  · exact .ok result
  · refine (shapely_asks result).bind fun _ _ => .ite ?_ ?_
    · exact (shapely_addTo _ result).bind fun fields _ =>
        (shapely_queued fields _).bind fun _ _ => .ok _
    · refine (shapely_fields _).bind fun fields _ => ?_
      refine (shapely_combine _).bind fun _ _ => .ite (.ok _) ?_
      exact (shapely_queued _ _).bind fun _ _ => .ok _

theorem shapely_link (prompt : Descriptors) (rest : List Outcome) : Shapely (link prompt rest) := by
  unfold link
  dsimp only
  split
  · exact .ok _
  · exact .error trivial

theorem shapely_merge (results : List Outcome) : Shapely (merge results) := by
  unfold merge
  split
  · exact .ok _
  · exact .ok _
  · refine (FailsOnly.mapM fun result _ => (shapely_asks result).bind fun _ _ => .ok _).bind
      fun marked _ => ?_
    dsimp only
    split
    · exact (shapely_combine _).bind fun _ _ => .ok _
    · refine (shapely_fields _).bind fun fields _ => (shapely_combine _).bind fun _ _ => ?_
      split
      · exact (FailsOnly.ok _).bind fun _ _ => .ok _
      · exact (shapely_link _ _).bind fun _ _ => .ok _

theorem shapely_stripData (data : Value) : Shapely (stripData data) := by
  unfold stripData
  split
  · exact .ok _
  · exact .ite (.ok _) (.error trivial)
  · exact .error trivial

mutual

theorem shapely_strip : ∀ outcome : Outcome, Shapely outcome.strip
  | record fields => by
      rw [strip]
      exact shapely_stripFields fields
  | value _ | card _ | player _ | ref _ | list _ | question _ _ | callback _ => by
      rw [strip]
      · exact .error trivial
      · exact fun fields same => nomatch same

theorem shapely_stripFields : ∀ fields : Descriptors, Shapely (stripFields fields)
  | [] => by
      rw [stripFields]
      exact .ok _
  | (key, payload) :: rest => by
      rw [stripFields]
      refine (shapely_stripFields rest).bind fun stripped _ => .ite (.ok _) <| .ite ?_ (.ok _)
      exact (shapely_stripEntries payload).bind fun _ _ => .ok _

theorem shapely_stripEntries : ∀ payload : Outcome, Shapely (stripEntries payload)
  | list items => by
      rw [stripEntries]
      exact shapely_stripItems items
  | record fields => by
      rw [stripEntries]
      exact .ite (.ok _) (.error trivial)
  | value data => by
      rw [stripEntries]
      exact shapely_stripData data
  | card _ | player _ | ref _ | question _ _ | callback _ => by
      rw [stripEntries]
      · exact .error trivial
      all_goals exact fun _ same => nomatch same

theorem shapely_stripItems : ∀ items : List Outcome, Shapely (stripItems items)
  | [] => by
      rw [stripItems]
      exact .ok _
  | item :: rest => by
      rw [stripItems]
      exact (shapely_strip item).bind fun _ _ => (shapely_stripItems rest).bind fun _ _ => .ok _

end

theorem shapely_upcoming (prompt : Descriptors) : Shapely (upcoming prompt) := by
  unfold upcoming
  dsimp only
  split
  · exact (shapely_elements _).bind fun _ _ => .ok _
  · exact .ok _

theorem shapely_upcomingAll (parts : List Descriptors) : Shapely (upcomingAll parts) := by
  induction parts with
  | nil => exact .ok []
  | cons part rest ih =>
      unfold upcomingAll
      exact (shapely_upcoming part).bind fun _ _ => ih.bind fun _ _ => .ok _

end Outcome

namespace Walk

theorem isShapeFault_of_absorb {walk next : Walk} {outcome : Outcome} {failure : Failure}
    (absorbed : walk.absorb outcome = (next, some failure)) : failure.IsShapeFault := by
  unfold absorb at absorbed
  split at absorbed
  · rename_i fault failed
    cases absorbed
    exact outcome.shapely_strip _ failed
  · dsimp only at absorbed
    split at absorbed
    · rename_i fault failed
      cases absorbed
      exact Outcome.shapely_upcomingAll _ _ failed
    · cases absorbed

theorem isShapeFault_of_settle (walk : Walk) {failure : Failure}
    (failed : walk.settle.2 = some failure) : failure.IsShapeFault := by
  fun_induction Walk.settle walk with
  | case1 walk question asked => cases failed
  | case2 walk unasked empty => cases failed
  | case3 walk unasked item rest stored question isQuestion => cases failed
  | case4 walk unasked item rest stored notQuestion next fault absorbed =>
      cases failed
      exact isShapeFault_of_absorb absorbed
  | case5 walk unasked item rest stored notQuestion next absorbed smaller ih => exact ih failed

theorem isShapeFault_of_take {walk : Walk} {outcome : Outcome} {failure : Failure}
    (failed : (walk.take outcome).2 = some failure) : failure.IsShapeFault := by
  unfold take at failed
  rcases absorbed : walk.absorb outcome with ⟨next, _ | fault⟩
  · rw [absorbed] at failed
    exact next.isShapeFault_of_settle failed
  · rw [absorbed] at failed
    cases failed
    exact isShapeFault_of_absorb absorbed

end Walk

end CreatureCards
