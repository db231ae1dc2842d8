import Mathlib.Data.List.Perm.Basic
import Mathlib.Data.List.Nodup

/-!
# Records with named members

A record is written as a list of members, and read member by member: one of an
unknown name, one whose name came before, and one whose value is refused end
the reading.  What is left has distinct names, so that a lookup by name does
not depend on the order.
-/

namespace Record

/-- What ends the reading at a member. -/
inductive Fault (Name Error : Type) where
  | unknown (name : Name)
  | duplicate (name : Name)
  | refused (name : Name) (error : Error)
  deriving DecidableEq

/-- The names of the members, and for what their values are refused. -/
structure Schema (Name Value Error : Type) where
  names : List Name
  refusal : Name → Value → Option Error

variable {Name Value Error : Type} [DecidableEq Name]

namespace Schema

variable (schema : Schema Name Value Error)

/-- What is wrong with a member, after members of the names seen. -/
def fault (seen : List Name) (member : Name × Value) :
    Option (Fault Name Error) :=
  if member.1 ∉ schema.names then some (.unknown member.1)
  else if member.1 ∈ seen then some (.duplicate member.1)
  else (schema.refusal member.1 member.2).map (.refused member.1)

/-- Reads the members in their order, up to the first fault. -/
def visit : List Name → List (Name × Value) → Except (Fault Name Error) Unit
  | _, [] => .ok ()
  | seen, member :: rest =>
      match schema.fault seen member with
      | some fault => .error fault
      | none => visit (seen ++ [member.1]) rest

variable {schema}

theorem fault_eq_none_iff {seen : List Name} {member : Name × Value} :
    schema.fault seen member = none ↔
      member.1 ∈ schema.names ∧ member.1 ∉ seen ∧
        schema.refusal member.1 member.2 = none := by
  unfold fault
  split
  · rename_i unknown
    simp [unknown]
  · rename_i known
    split
    · rename_i before
      simp [before]
    · rename_i first
      simp [not_not.mp known, first]

theorem visit_eq_ok_iff {seen : List Name} {members : List (Name × Value)} :
    schema.visit seen members = .ok () ↔
      (members.map Prod.fst).Nodup ∧
        ∀ member ∈ members, schema.fault seen member = none := by
  induction members generalizing seen with
  | nil => simp [visit]
  | cons member rest induction =>
      rw [visit, List.map_cons, List.nodup_cons, List.forall_mem_cons]
      cases found : schema.fault seen member with
      | some fault => simp
      | none =>
          simp only [induction, true_and]
          simp only [fault_eq_none_iff, List.mem_append, List.mem_singleton,
            List.mem_map]
          constructor
          · rintro ⟨distinct, clean⟩
            refine ⟨⟨?_, distinct⟩, ?_⟩
            · rintro ⟨other, later, same⟩
              exact (clean other later).2.1 (.inr same)
            · intro other later
              obtain ⟨known, first, accepted⟩ := clean other later
              exact ⟨known, fun before => first (.inl before), accepted⟩
          · rintro ⟨⟨first, distinct⟩, clean⟩
            refine ⟨distinct, ?_⟩
            intro other later
            obtain ⟨known, unseen, accepted⟩ := clean other later
            refine ⟨known, ?_, accepted⟩
            rintro (before | same)
            · exact unseen before
            · exact first ⟨other, later, same⟩

/-- The fault that is reported is that of the first faulty member. -/
theorem visit_eq_error_iff {seen : List Name}
    {members : List (Name × Value)} {fault : Fault Name Error} :
    schema.visit seen members = .error fault ↔
      ∃ before member after, members = before ++ member :: after ∧
        schema.visit seen before = .ok () ∧
        schema.fault (seen ++ before.map Prod.fst) member =
          some fault := by
  induction members generalizing seen with
  | nil => simp [visit]
  | cons first rest induction =>
      rw [visit]
      cases found : schema.fault seen first with
      | some earliest =>
          simp only [Except.error.injEq]
          constructor
          · rintro rfl
            exact ⟨[], first, rest, rfl, rfl, by simpa using found⟩
          · rintro ⟨before, member, after, split, clean, faulty⟩
            cases before with
            | nil =>
                cases split
                rw [List.map_nil, List.append_nil, found] at faulty
                exact Option.some.inj faulty
            | cons other before =>
                cases split
                simp [visit, found] at clean
      | none =>
          simp only [induction]
          constructor
          · rintro ⟨before, member, after, rfl, clean, faulty⟩
            refine ⟨first :: before, member, after, rfl, ?_, ?_⟩
            · rw [visit, found]
              exact clean
            · simpa using faulty
          · rintro ⟨before, member, after, split, clean, faulty⟩
            cases before with
            | nil =>
                cases split
                rw [List.map_nil, List.append_nil, found] at faulty
                cases faulty
            | cons other before =>
                cases split
                rw [visit, found] at clean
                exact ⟨before, member, after, rfl, clean, by simpa using faulty⟩

end Schema

/-! ## Lookups in a record -/

theorem lookup_eq_some_iff {members : List (Name × Value)} {name : Name}
    {value : Value} (distinct : (members.map Prod.fst).Nodup) :
    members.lookup name = some value ↔ (name, value) ∈ members := by
  induction members with
  | nil => simp
  | cons member rest induction =>
      rcases member with ⟨first, given⟩
      rw [List.map_cons, List.nodup_cons] at distinct
      rw [List.lookup_cons, List.mem_cons, ← induction distinct.2]
      by_cases same : name = first
      · subst same
        have absent : rest.lookup name ≠ some value := by
          intro later
          exact distinct.1 (List.mem_map.mpr
            ⟨_, (induction distinct.2).mp later, rfl⟩)
        simp [absent, eq_comm]
      · simp [same, beq_eq_false_iff_ne.mpr same]

theorem lookup_perm {members other : List (Name × Value)}
    (permutation : members.Perm other)
    (distinct : (members.map Prod.fst).Nodup) (name : Name) :
    members.lookup name = other.lookup name := by
  have otherDistinct : (other.map Prod.fst).Nodup :=
    (permutation.map _).nodup_iff.mp distinct
  apply Option.ext
  intro value
  rw [lookup_eq_some_iff distinct, lookup_eq_some_iff otherDistinct,
    permutation.mem_iff]

end Record
