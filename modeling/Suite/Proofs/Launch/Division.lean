import Suite.Launch.Arguments

/-!
# Where flags end

Two rules say where the flags for the virtual machine end: at the first separator or, without one,
in front of the first argument that begins with no mark. `VmFlags.Divides` tells what a division by
these rules is and not how it is found. Every list has exactly one, whatever the marks are.

## Key results

- `divide_separated`, `divide_marked`: the arguments put together again are divided as before
- `divide_eq_iff`: the division that is found is the one that the rules ask for
-/

namespace Suite

namespace VmFlags

variable {f : VmFlags} {raw vm arguments : List String} {d : Division}

/-- The argument begins with one of the marks. -/
def IsMarked (f : VmFlags) (argument : String) : Prop :=
  ∃ mark ∈ f.marks, ∃ rest, argument = mark ++ rest

/-- An argument is a flag exactly if it is marked as one. -/
private theorem isFlag_iff {argument : String} :
    f.isFlag argument = true ↔ f.IsMarked argument := by
  rw [isFlag, List.any_eq_true]
  refine exists_congr fun mark => and_congr_right fun _ => ?_
  rw [List.isPrefixOf_iff_prefix]
  constructor
  · rintro ⟨rest, hrest⟩
    exact ⟨String.ofList rest, String.toList_inj.1 (by simp [hrest])⟩
  · rintro ⟨rest, rfl⟩
    exact ⟨rest.toList, String.toList_append.symm⟩

/-- A division by the rules: around the first separator if there is one, and else between the marked
arguments in front and the first that is not marked. -/
structure Divides (f : VmFlags) (raw : List String) (d : Division) : Prop where
  separated : separator ∈ raw →
    raw = d.flags ++ separator :: d.arguments ∧ separator ∉ d.flags
  unseparated : separator ∉ raw →
    raw = d.flags ++ d.arguments ∧ (∀ flag ∈ d.flags, f.IsMarked flag) ∧
      ∀ first ∈ d.arguments.head?, ¬ f.IsMarked first

/-- The first separator divides. -/
theorem divide_separated (f : VmFlags) (hvm : separator ∉ vm) (arguments : List String) :
    f.divide (vm ++ separator :: arguments) = ⟨vm, arguments⟩ := by
  have hne : ∀ token ∈ vm, token ≠ separator := fun token hmem h => hvm (h ▸ hmem)
  have htake : (vm ++ separator :: arguments).takeWhile (· ≠ separator) = vm := by
    rw [List.takeWhile_append_of_pos (by simpa using hne)]
    simp
  have hdrop : (vm ++ separator :: arguments).dropWhile (· ≠ separator) =
      separator :: arguments := by
    rw [List.dropWhile_append_of_pos (by simpa using hne)]
    simp
  rw [divide, if_pos (by simp), htake, hdrop, List.tail_cons]

/-- Without a separator the flags are those in front. -/
private theorem divide_unseparated (f : VmFlags) (h : separator ∉ raw) :
    f.divide raw = ⟨raw.takeWhile f.isFlag, raw.dropWhile f.isFlag⟩ := by
  rw [divide, if_neg (by simpa using h)]

/-- Without a separator the marked arguments in front are the flags. -/
theorem divide_marked (h : separator ∉ vm ++ arguments) (hvm : ∀ flag ∈ vm, f.IsMarked flag)
    (hfirst : ∀ first ∈ arguments.head?, ¬ f.IsMarked first) :
    f.divide (vm ++ arguments) = ⟨vm, arguments⟩ := by
  have hflags : ∀ flag ∈ vm, f.isFlag flag = true := fun flag hmem => isFlag_iff.2 (hvm flag hmem)
  rw [divide_unseparated f h, List.takeWhile_append_of_pos hflags,
    List.dropWhile_append_of_pos hflags]
  cases arguments with
  | nil => simp
  | cons first rest =>
    have hno : ¬ f.isFlag first = true := fun hflag => hfirst first rfl (isFlag_iff.1 hflag)
    rw [List.takeWhile_cons_of_neg hno, List.dropWhile_cons_of_neg hno, List.append_nil]

/-- What is found is a division by the rules. -/
private theorem divides_divide (f : VmFlags) (raw : List String) :
    f.Divides raw (f.divide raw) where
  separated h := by
    obtain ⟨vm, arguments, rfl, hvm⟩ := List.eq_append_cons_of_mem h
    rw [divide_separated f hvm]
    exact ⟨rfl, hvm⟩
  unseparated h := by
    rw [divide_unseparated f h]
    -- The flags are the longest first part of the list in which each token is one.
    refine ⟨List.takeWhile_append_dropWhile.symm, fun flag hflag => ?_, fun first hfirst => ?_⟩
    · exact isFlag_iff.1 (List.all_eq_true.1 List.all_takeWhile flag hflag)
    · have hhead := List.head?_dropWhile_not f.isFlag raw
      have hno : f.isFlag first = false := by simpa only [Option.mem_def.1 hfirst] using hhead
      intro hmarked
      rw [isFlag_iff.2 hmarked] at hno
      cases hno

/-- A division by the rules is the one that is found. -/
private theorem Divides.divide_eq (h : f.Divides raw d) : f.divide raw = d := by
  by_cases hmem : separator ∈ raw
  · obtain ⟨rfl, hflags⟩ := h.separated hmem
    exact divide_separated f hflags d.arguments
  · obtain ⟨rfl, hflags, hfirst⟩ := h.unseparated hmem
    exact divide_marked hmem hflags hfirst

/-- The division is the only one that fits the arguments. -/
theorem divide_eq_iff : f.divide raw = d ↔ f.Divides raw d :=
  ⟨fun h => h ▸ divides_divide f raw, Divides.divide_eq⟩

/-- For all marks and arguments there is one division by the rules, and it is the one that is found.
So flags without a separator are found again in front of one, whatever follows it, and a separator
put in where the flags end changes nothing. -/
theorem division_is_unique (f : VmFlags) :
    (∀ raw d, f.divide raw = d ↔ f.Divides raw d) ∧
    (∀ vm arguments, separator ∉ vm →
      f.divide (vm ++ [separator] ++ arguments) = ⟨vm, arguments⟩) ∧
    ∀ raw, separator ∉ raw →
      f.divide ((f.divide raw).flags ++ [separator] ++ (f.divide raw).arguments) =
        f.divide raw := by
  have hseparated (vm arguments : List String) (hvm : separator ∉ vm) :
      f.divide (vm ++ [separator] ++ arguments) = ⟨vm, arguments⟩ := by
    rw [List.append_assoc, List.singleton_append]
    exact divide_separated f hvm arguments
  refine ⟨fun raw d => divide_eq_iff, hseparated, fun raw h => ?_⟩
  -- No flag is a separator, since they are all among the arguments.
  obtain ⟨happend, -, -⟩ := (divides_divide f raw).unseparated h
  refine hseparated _ _ fun hmem => h ?_
  rw [happend]
  exact List.mem_append_left _ hmem

/-- A separator counts for more than a mark that it begins with. -/
example :
    (⟨["-"]⟩ : VmFlags).divide ["-a", "--", "-b", "--", "c"] = ⟨["-a"], ["-b", "--", "c"]⟩ := by
  decide

end VmFlags

end Suite
