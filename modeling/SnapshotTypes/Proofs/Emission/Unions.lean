import SnapshotTypes.Proofs.Emission.Tokens
import Mathlib.Logic.Relation

/-!
# Nested unions

A union is written without brackets, so that of a nested union only the leaves are read, from left
to right. How they are grouped does not show in the text, as long as no group is empty: an empty
one would still take a bar of its own.
-/

set_option autoImplicit false

namespace SnapshotTypes

/-!
## Joined groups
-/

/-- Groups that are joined each by itself, and then with one another, read as one list. -/
theorem intercalate_map_intercalate (separator : String) {groups : List (List String)}
    (filled : ∀ group ∈ groups, group ≠ []) :
    separator.intercalate (groups.map separator.intercalate) =
      separator.intercalate groups.flatten := by
  induction groups with
  | nil => rfl
  | cons group rest ih =>
      obtain ⟨here, later⟩ := List.forall_mem_cons.mp filled
      cases rest with
      | nil => simp
      | cons next others =>
          -- A separator stands behind `group` on the left; on the right only if something follows.
          have more : (next :: others).flatten ≠ [] := by
            simp [(List.forall_mem_cons.mp later).1]
          rw [List.map_cons, List.flatten_cons, String.intercalate_append_of_ne_nil here more,
            ← ih later, String.intercalate_cons_of_ne_nil (by simp)]

theorem intercalate_group (separator : String) (before after : List String) {group : List String}
    (nonempty : group ≠ []) :
    separator.intercalate (before ++ separator.intercalate group :: after) =
      separator.intercalate (before ++ group ++ after) := by
  -- The items before and after are groups of one.
  have filled : ∀ part ∈ before.map (fun item => [item]) ++
      group :: after.map (fun item => [item]), part ≠ [] := by
    simp only [List.forall_mem_append, List.forall_mem_cons, List.forall_mem_map]
    exact ⟨fun _ _ => List.cons_ne_nil _ _, nonempty, fun _ _ => List.cons_ne_nil _ _⟩
  simpa [Function.comp_def, ← List.flatMap_def] using
    intercalate_map_intercalate separator filled

namespace Ty

/-!
## Leaves
-/

/-- Induction over types, with the hypothesis for every arm of a union. All other types are
alike. -/
theorem induction {motive : Ty → Prop} (single : ∀ ty, (∀ arms, ty ≠ union arms) → motive ty)
    (union : ∀ arms, (∀ arm ∈ arms, motive arm) → motive (.union arms)) (ty : Ty) : motive ty :=
  @Ty.rec motive (fun arms => ∀ arm ∈ arms, motive arm)
    (single _ nofun) (single _ nofun) (single _ nofun) (single _ nofun) (single _ nofun)
    (fun _ => single _ nofun) union
    nofun (fun _ _ head rest => List.forall_mem_cons.mpr ⟨head, rest⟩) ty

mutual

/-- The types that a type is made of where all unions in it are opened, from left to right. -/
def leaves : Ty → List Ty
  | union arms => leavesOf arms
  | single => [single]

def leavesOf : List Ty → List Ty
  | [] => []
  | ty :: rest => ty.leaves ++ leavesOf rest

end

theorem leavesOf_eq_flatMap (tys : List Ty) : leavesOf tys = tys.flatMap leaves := by
  induction tys with
  | nil => rfl
  | cons ty rest ih => rw [leavesOf, ih, List.flatMap_cons]

theorem leaves_union (arms : List Ty) : (union arms).leaves = arms.flatMap leaves := by
  rw [leaves, leavesOf_eq_flatMap]

theorem leaves_of_single {ty : Ty} (single : ∀ arms, ty ≠ union arms) : ty.leaves = [ty] := by
  cases ty with
  | union arms => exact absurd rfl (single arms)
  | _ => rfl

theorem ne_union_of_mem_leaves {ty leaf : Ty} (member : leaf ∈ ty.leaves) (arms : List Ty) :
    leaf ≠ union arms := by
  induction ty using Ty.induction with
  | single ty single =>
      rw [leaves_of_single single, List.mem_singleton] at member
      exact member ▸ single arms
  | union inner ih =>
      rw [leaves_union] at member
      obtain ⟨arm, present, within⟩ := List.mem_flatMap.mp member
      exact ih arm present within

/-- The types that hold no union without arms, at any depth. -/
inductive IsFilled : Ty → Prop where
  | single {ty : Ty} : (∀ arms, ty ≠ union arms) → IsFilled ty
  | nested {arms : List Ty} : arms ≠ [] → (∀ arm ∈ arms, IsFilled arm) → IsFilled (union arms)

theorem isFilled_union_iff {arms : List Ty} :
    (union arms).IsFilled ↔ arms ≠ [] ∧ ∀ arm ∈ arms, arm.IsFilled := by
  constructor
  · intro filled
    cases filled with
    | single single => exact absurd rfl (single arms)
    | nested nonempty each => exact ⟨nonempty, each⟩
  · exact fun given => .nested given.1 given.2

theorem IsFilled.leaves_ne_nil {ty : Ty} (filled : ty.IsFilled) : ty.leaves ≠ [] := by
  induction filled with
  | single single => simp [leaves_of_single single]
  | nested nonempty _ ih =>
      obtain ⟨arm, rest, rfl⟩ := List.exists_cons_of_ne_nil nonempty
      simp [leaves_union, ih arm List.mem_cons_self]

theorem render_union (arms : List Ty) :
    (union arms).render = " | ".intercalate (arms.map render) := by
  rw [render, renderAll_eq_map]

theorem IsFilled.render_eq_join {ty : Ty} (filled : ty.IsFilled) :
    ty.render = " | ".intercalate (ty.leaves.map render) := by
  induction filled with
  | single single =>
      rw [leaves_of_single single, List.map_singleton, String.intercalate_singleton]
  | @nested arms _ each ih =>
      have groups : ∀ group ∈ arms.map (fun arm => arm.leaves.map render), group ≠ [] := by
        intro group member
        obtain ⟨arm, present, rfl⟩ := List.mem_map.mp member
        simpa using (each arm present).leaves_ne_nil
      calc (union arms).render
          = " | ".intercalate (arms.map render) := render_union arms
        _ = " | ".intercalate
              ((arms.map fun arm => arm.leaves.map render).map " | ".intercalate) := by
            rw [List.map_map]
            exact congrArg _ (List.map_congr_left ih)
        _ = " | ".intercalate ((union arms).leaves.map render) := by
            rw [intercalate_map_intercalate _ groups, leaves_union, List.map_flatMap,
              List.flatMap_def]

/-!
## Regrouping
-/

/-- Arms that stand side by side are put into a union of their own, at any depth. A type that stands
alone counts as one arm. -/
inductive Wraps : Ty → Ty → Prop where
  | alone (ty : Ty) : Wraps ty (union [ty])
  | group (before : List Ty) {group : List Ty} (after : List Ty) :
      group ≠ [] → Wraps (union (before ++ group ++ after)) (union (before ++ union group :: after))
  | within (before : List Ty) {arm wrapped : Ty} (after : List Ty) :
      Wraps arm wrapped →
        Wraps (union (before ++ arm :: after)) (union (before ++ wrapped :: after))

/-- Arms may be wrapped and unwrapped any number of times. -/
def Regroups : Ty → Ty → Prop :=
  Relation.EqvGen Wraps

theorem Wraps.render_eq {ty wrapped : Ty} (wraps : ty.Wraps wrapped) :
    ty.render = wrapped.render := by
  induction wraps with
  | alone ty => rw [render_union, List.map_singleton, String.intercalate_singleton]
  | group before after filled =>
      simp only [render_union, List.map_append, List.map_cons]
      exact (intercalate_group _ _ _ (by simpa using filled)).symm
  | within before after _ ih => simp only [render_union, List.map_append, List.map_cons, ih]

theorem Wraps.leaves_eq {ty wrapped : Ty} (wraps : ty.Wraps wrapped) :
    ty.leaves = wrapped.leaves := by
  induction wraps with
  | alone ty => simp [leaves_union]
  | group before after _ => simp [leaves_union]
  | within before after _ ih => simp [leaves_union, ih]

theorem Wraps.isFilled_iff {ty wrapped : Ty} (wraps : ty.Wraps wrapped) :
    ty.IsFilled ↔ wrapped.IsFilled := by
  induction wraps with
  | alone ty => simp [isFilled_union_iff]
  | group before after filled =>
      simp [isFilled_union_iff, filled, or_imp, forall_and]
  | within before after _ ih => simp [isFilled_union_iff, or_imp, forall_and, ih]

theorem Regroups.congr {α : Type} {view : Ty → α}
    (kept : ∀ ty wrapped : Ty, ty.Wraps wrapped → view ty = view wrapped) {first second : Ty}
    (regroups : first.Regroups second) : view first = view second := by
  induction regroups with
  | rel ty wrapped wraps => exact kept ty wrapped wraps
  | refl => rfl
  | symm _ _ _ ih => exact ih.symm
  | trans _ _ _ _ _ ih later => exact ih.trans later

theorem Regroups.within (before after : List Ty) {arm regrouped : Ty}
    (regroups : arm.Regroups regrouped) :
    (union (before ++ arm :: after)).Regroups (union (before ++ regrouped :: after)) := by
  induction regroups with
  | rel _ _ wraps => exact .rel _ _ (.within before after wraps)
  | refl => exact .refl _
  | symm _ _ _ ih => exact .symm _ _ ih
  | trans _ _ _ _ _ ih later => exact .trans _ _ _ ih later

theorem regroups_flatMap_leaves (before : List Ty) {arms : List Ty}
    (filled : ∀ arm ∈ arms, arm.IsFilled)
    (opens : ∀ arm ∈ arms, arm.Regroups (union arm.leaves)) :
    (union (before ++ arms)).Regroups (union (before ++ arms.flatMap leaves)) := by
  -- From the left, one arm after the other: those in `before` are open.
  induction arms generalizing before with
  | nil => exact .refl _
  | cons arm rest ih =>
      obtain ⟨here, later⟩ := List.forall_mem_cons.mp filled
      obtain ⟨openHere, openLater⟩ := List.forall_mem_cons.mp opens
      have wrapped := Regroups.within before rest openHere
      have unwrapped := Wraps.group before rest here.leaves_ne_nil
      have onward := ih (before ++ arm.leaves) later openLater
      rw [List.append_assoc before arm.leaves (rest.flatMap leaves), ← List.flatMap_cons] at onward
      exact .trans _ _ _ wrapped (.trans _ _ _ (.symm _ _ (.rel _ _ unwrapped)) onward)

theorem IsFilled.regroups_union_leaves {ty : Ty} (filled : ty.IsFilled) :
    ty.Regroups (union ty.leaves) := by
  induction filled with
  | @single ty single =>
      rw [leaves_of_single single]
      exact .rel _ _ (.alone ty)
  | @nested arms _ each ih =>
      rw [leaves_union]
      exact regroups_flatMap_leaves [] each ih

theorem IsFilled.regroups_iff {first second : Ty} (firstFilled : first.IsFilled)
    (secondFilled : second.IsFilled) :
    first.Regroups second ↔ first.leaves = second.leaves := by
  constructor
  · exact Regroups.congr fun _ _ => Wraps.leaves_eq
  · -- Both are regroupings of the one union of all their leaves.
    intro same
    have back := secondFilled.regroups_union_leaves
    rw [← same] at back
    exact .trans _ _ _ firstFilled.regroups_union_leaves (.symm _ _ back)

theorem render_nullable (ty : Ty) : ty.nullable.render = ty.render ++ " | null" := by
  rw [nullable, render_union, List.map_cons, List.map_singleton, String.intercalate_cons_cons,
    String.intercalate_singleton, String.append_assoc]
  rfl

/-- A type whose unions all have arms is written as its leaves with bars between them. Regrouping
arms changes neither the text nor whether all unions have arms, and from one such type it leads to
just those with the same leaves. Admitting null adds one more arm to the text of any type. -/
theorem render_joins_leaves :
    (∀ ty : Ty, ty.IsFilled → ty.render = " | ".intercalate (ty.leaves.map render)) ∧
      (∀ ty : Ty, ∀ leaf ∈ ty.leaves, ∀ arms, leaf ≠ union arms) ∧
      (∀ first second : Ty, first.Regroups second →
        first.render = second.render ∧ (first.IsFilled ↔ second.IsFilled)) ∧
      (∀ first second : Ty, first.IsFilled → second.IsFilled →
        (first.Regroups second ↔ first.leaves = second.leaves)) ∧
      ∀ ty : Ty, ty.nullable.render = ty.render ++ " | null" := by
  refine ⟨fun _ => IsFilled.render_eq_join, fun _ _ => ne_union_of_mem_leaves, ?_,
    fun _ _ => IsFilled.regroups_iff, render_nullable⟩
  intro first second regroups
  have filled : first.IsFilled = second.IsFilled :=
    regroups.congr fun _ _ wraps => propext wraps.isFilled_iff
  exact ⟨regroups.congr fun _ _ => Wraps.render_eq, Iff.of_eq filled⟩

/-- A union of three leaves within another one, grouped from the left and from the right. -/
theorem render_of_two_groupings :
    let first := union [unknown, union [union [boolean, reference "Date"], null]]
    let second := union [unknown, union [boolean, union [reference "Date", null]]]
    first.IsFilled ∧ second.IsFilled ∧
      first.render = " | ".intercalate (first.leaves.map render) ∧
      null ∈ first.leaves ∧ (∀ arms, null ≠ union arms) ∧
      first.Regroups second ∧ first.render = second.render ∧ first.leaves = second.leaves ∧
      second.nullable.render = "unknown | boolean | Date | null | null" := by
  intro first second
  obtain ⟨joined, single, kept, told, nullable⟩ := render_joins_leaves
  have firstFilled : first.IsFilled := by
    simp [first, isFilled_union_iff, IsFilled.single]
  have secondFilled : second.IsFilled := by
    simp [second, isFilled_union_iff, IsFilled.single]
  have fromLeft : (union [boolean, reference "Date", null]).Wraps
      (union [union [boolean, reference "Date"], null]) :=
    .group [] [null] (List.cons_ne_nil boolean [reference "Date"])
  have fromRight : (union [boolean, reference "Date", null]).Wraps
      (union [boolean, union [reference "Date", null]]) :=
    .group [boolean] [] (List.cons_ne_nil (reference "Date") [null])
  have inner : (union [union [boolean, reference "Date"], null]).Regroups
      (union [boolean, union [reference "Date", null]]) :=
    .trans _ _ _ (.symm _ _ (.rel _ _ fromLeft)) (.rel _ _ fromRight)
  have regroups : first.Regroups second := Regroups.within [unknown] [] inner
  have last : null ∈ first.leaves := by
    simp [first, leaves, leavesOf]
  exact ⟨firstFilled, secondFilled, joined first firstFilled, last, single first null last,
    regroups, (kept first second regroups).1,
    (told first second firstFilled secondFilled).mp regroups, nullable second⟩

/-- A union without arms shows by its bar, although it has no leaves. -/
example : (union [union [], boolean]).render = " | boolean" ∧
    (union [union [], boolean]).leaves = [boolean] :=
  ⟨by decide, rfl⟩

end Ty

end SnapshotTypes
