import Suite.Proofs.Launch.Entries
import Suite.Proofs.Launch.Walk

/-!
# Classpaths from a worklist

The plain way to a classpath needs no recursion along dependencies and compares no paths: a list of
pending ids, from which the first is taken and to which its dependencies are put in front. Paths
that repeat others are dropped at the very end. Both ways give the same classpath and the same
error.

## Key results

- `worklist_eq`: what a worklist emits, read off the preorder
- `classpath_eq_worklist`: the walk along dependencies gives what the worklist gives
-/

namespace Suite

namespace Config

/-- The paths emitted from a list of pending ids on, after those of the ids seen. -/
def worklist (c : Config) (root : Path) (pending seen : List String) (emitted : List Path) :
    Except Error (List Path) :=
  match pending with
  | [] => .ok emitted
  | id :: rest =>
    match _hd : c.distribution? id with
    | none => .error (.unresolvedDistribution id)
    | some d =>
      if _hseen : id ∈ seen then c.worklist root rest seen emitted
      else
        c.worklist root (d.dependencies ++ rest) (id :: seen)
          (if d.native then emitted else emitted ++ [jarPath root id d])
  termination_by (c.unmet { met := seen }, pending.length)
  decreasing_by
    · exact Prod.Lex.right _ (Nat.lt_succ_self _)
    · exact Prod.Lex.left _ _ (unmet_lt (List.subset_cons_self _ _) (mem_spellings _hd) _hseen
        List.mem_cons_self)

variable {c : Config} {root : Path}

/-- The path that an id emits, if it stands for a distribution with a jar. -/
private theorem append_jar? {id : String} {d : Distribution} (hd : c.distribution? id = some d)
    (emitted : List Path) :
    (if d.native then emitted else emitted ++ [jarPath root id d]) =
      emitted ++ (c.jar? root id).toList := by
  cases hnative : d.native <;> simp [jar?, hd, hnative]

/-- A worklist stops at the first unresolved id of the preorder; without one it emits the jars of
the preorder. -/
theorem worklist_eq (pending seen : List String) (emitted : List Path)
    (hseen : ∀ id ∈ seen, c.isUnresolved id = false) :
    c.worklist root pending seen emitted =
      match (c.preorder pending seen).find? c.isUnresolved with
      | some id => .error (.unresolvedDistribution id)
      | none => .ok (emitted ++ (c.preorder pending seen).filterMap (c.jar? root)) := by
  induction pending, seen, emitted using worklist.induct c root with
  | case1 seen emitted => simp [worklist]
  | case2 seen emitted id rest hd =>
    -- Ids seen stand for distributions, so the preorder has this one as its head.
    rw [worklist, preorder_cons_of_notMem c _ (notMem_of_resolved hd hseen),
      List.find?_cons_of_pos (isUnresolved_of_none hd)]
    split
    · rfl
    · next d hsome => simp [hd] at hsome
  | case3 seen emitted id rest d hd hid ih =>
    rw [worklist, preorder_cons_of_mem c _ hid, ← ih hseen]
    split
    · next hnone => simp [hd] at hnone
    · rw [dif_pos hid]
  | case4 seen emitted id rest d hd hid ih =>
    have hsome : ¬ c.isUnresolved id = true := by simp [isUnresolved_of_some hd]
    simp only [dite_eq_ite, append_jar? hd] at ih
    -- Dependencies go in front of the rest here and in the preorder.
    rw [worklist, preorder_cons_of_notMem c _ hid, List.find?_cons_of_neg hsome, needs_of_some hd]
    split
    · next hnone => simp [hd] at hnone
    · next d' hd' =>
      obtain rfl : d = d' := Option.some.inj (hd.symm.trans hd')
      rw [dif_neg hid, append_jar? hd, ih (resolved_cons hd hseen)]
      cases hjar : c.jar? root id <;> simp [hjar]

/-- The walk along dependencies gives the classpath, or the error, that a worklist gives when every
path that repeats an earlier one is dropped from what it emits. So the jars stand in the order in
which a depth-first walk first meets their ids, and the error names the first unresolved id in that
order. -/
theorem classpath_eq_worklist (c : Config) (root : Path) (ids : List String) :
    c.classpath root ids = (c.worklist root ids [] []).map (·.eraseDupsBy Path.same) ∧
    c.classpath root ids =
      match (c.preorder ids []).find? c.isUnresolved with
      | some id => .error (.unresolvedDistribution id)
      | none => .ok (((c.preorder ids []).filterMap (c.jar? root)).eraseDupsBy Path.same) := by
  have hpreorder := classpath_eq c root ids
  rw [foldl_addEntry_eq_eraseDupsBy] at hpreorder
  refine ⟨?_, hpreorder⟩
  rw [hpreorder, worklist_eq ids [] [] (fun id hid => by cases hid)]
  cases (c.preorder ids []).find? c.isUnresolved <;> rfl

end Config

end Suite
