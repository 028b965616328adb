import Mathlib.Data.List.Sort
import JsonSchema.Path
import JsonSchema.Proofs.Text.Pieces
/-!
# Paths by their components

Joining a name to a path adds a component (`Path.components_join`). Paths are ordered by their
components, so a sorted list without neighbours that are the same holds no path twice
(`Path.pairwise_sortDedup`).
-/

namespace JsonSchema.Path

variable {p q r : Path} {ps : List Path} {s : String} {cs ds : List Component}

/-! ### Names -/

/-- What an entry of a directory may be called. -/
def IsName (s : String) : Prop := s ≠ "" ∧ s ≠ "." ∧ s ≠ ".." ∧ '/' ∉ s.toList

instance (s : String) : Decidable (IsName s) := inferInstanceAs (Decidable (_ ∧ _ ∧ _ ∧ _))

theorem component?_of_isName (h : IsName s) : component? s = some (.name s) := by
  simp [component?, h.1, h.2.1, h.2.2.1]

theorem names_of_isName (h : IsName s) : names s = [s] := by
  rw [names, Text.splitAt_of_not_mem h.2.2.2, List.map_singleton, String.ofList_toList]

theorem names_ne_nil (s : String) : names s ≠ [] := by
  rw [names, ne_eq, List.map_eq_nil_iff]
  exact Text.splitAt_ne_nil _ _

theorem names_slash (s t : String) : names (s ++ "/" ++ t) = names s ++ names t := by
  have split : (s ++ "/" ++ t).toList = s.toList ++ '/' :: t.toList := by
    simp [String.toList_append]
  rw [names, split, Text.splitAt_append_append, List.map_append]
  rfl

/-- A path that is joined with a name has the same pieces, but for an empty one after a slash at the
end, and then the name. -/
theorem exists_names_join (hp : p.text ≠ "") (h : IsName s) : ∃ front ending, front ≠ [] ∧
    (ending = [] ∨ ending = [""]) ∧ names p.text = front ++ ending ∧
    names (p.join s).text = front ++ [s] ∧ (p.join s).isAbsolute = p.isAbsolute := by
  have nonempty : p.text.toList ≠ [] := by simpa [String.toList_eq_nil_iff] using hp
  by_cases slash : p.text.toList.getLast? = some '/'
  · obtain ⟨l, hl⟩ := List.getLast?_eq_some_iff.1 slash
    have text : p.text = String.ofList l ++ "/" ++ "" := by
      rw [← String.toList_inj, hl]
      simp [String.toList_append]
    have joined : (p.join s).text = String.ofList l ++ "/" ++ s := by
      rw [join, if_pos (by simp [slash])]
      show p.text ++ s = _
      rw [text, String.append_empty]
    refine ⟨names (String.ofList l), [""], names_ne_nil _, .inr rfl, ?_,
      by rw [joined, names_slash, names_of_isName h], ?_⟩
    · rw [text, names_slash]
      rfl
    rw [isAbsolute, isAbsolute, joined, text]
    cases l <;> simp [String.toList_append]
  · have joined : (p.join s).text = p.text ++ "/" ++ s := by
      rw [join, if_neg (by simp [hp, slash])]
    refine ⟨names p.text, [], names_ne_nil _, .inl rfl, (List.append_nil _).symm,
      by rw [joined, names_slash, names_of_isName h], ?_⟩
    rw [isAbsolute, isAbsolute, joined]
    simp [String.toList_append, List.head?_append_of_ne_nil _ nonempty]

theorem join_ne_empty (h : IsName s) : (p.join s).text ≠ "" := by
  unfold join
  split <;> simp [h.1]

theorem components_join (hp : p.text ≠ "") (h : IsName s) :
    (p.join s).components = p.components ++ [.name s] := by
  obtain ⟨front, ending, hf, he, hn, joined, absolute⟩ := exists_names_join hp h
  have piece : ending.filterMap component? = [] := by
    rcases he with rfl | rfl <;> rfl
  simp only [components, joined, absolute, hn, List.head?_append_of_ne_nil _ hf,
    List.filterMap_append, piece, List.append_nil, List.append_assoc, List.filterMap_cons,
    component?_of_isName h, List.filterMap_nil]

/-! ### The order of paths -/

section Order

open Std

/-- What tells components of the same rank apart. -/
def Component.label : Component → String
  | .name s => s
  | _ => ""

theorem Component.compare_eq :
    Component.compare = compareLex (compareOn Component.rank) (compareOn Component.label) := by
  funext c d
  cases c <;> cases d <;> rfl

instance : TransCmp Component.compare := by
  rw [Component.compare_eq]
  infer_instance

theorem Component.eq_of_compare_eq {c d : Component} (h : c.compare d = .eq) : c = d := by
  cases c <;> cases d <;> first | rfl | cases h | skip
  exact congrArg _ (LawfulEqOrd.compare_eq_iff_eq.1 h)

instance : LawfulEqCmp Component.compare where
  eq_of_compare := Component.eq_of_compare_eq

theorem compareAll_eq : compareAll = List.compareLex Component.compare := by
  funext cs ds
  induction cs generalizing ds with
  | nil => cases ds <;> rfl
  | cons c cs ih =>
    cases ds with
    | nil => rfl
    | cons d ds =>
      rw [compareAll, ih, List.compareLex_cons_cons]

instance : TransCmp compareAll := by
  rw [compareAll_eq]
  infer_instance

instance : LawfulEqCmp compareAll := by
  rw [compareAll_eq]
  infer_instance

theorem compareAll_eq_iff : compareAll cs ds = .eq ↔ cs = ds := LawfulEqCmp.compare_eq_iff_eq

theorem le_iff : p.le q = true ↔ (compareAll p.components q.components).isLE = true := by
  rw [le, Ordering.isLE_eq_not_beq_gt]
  rfl

theorem le_trans (h : p.le q = true) (h' : q.le r = true) : p.le r = true :=
  le_iff.2 (TransCmp.isLE_trans (le_iff.1 h) (le_iff.1 h'))

theorem le_total (p q : Path) : (p.le q || q.le p) = true := by
  have swap : compareAll q.components p.components = (compareAll p.components q.components).swap :=
    OrientedCmp.eq_swap
  rw [Bool.or_eq_true, le_iff, le_iff, swap]
  cases compareAll p.components q.components <;> simp

/-- A path comes before another one. -/
def Lt (p q : Path) : Prop := compareAll p.components q.components = .lt

theorem lt_of_le_of_not_same (h : p.le q = true) (hne : ¬p.same q = true) : p.Lt q := by
  have distinct : p.components ≠ q.components := by simpa [same] using hne
  refine (Ordering.isLE_iff_eq_lt_or_eq_eq.1 (le_iff.1 h)).resolve_right fun he => ?_
  exact distinct (compareAll_eq_iff.1 he)

theorem Lt.trans_le (h : p.Lt q) (h' : q.le r = true) : p.Lt r :=
  TransCmp.lt_of_lt_of_isLE h (le_iff.1 h')

theorem Lt.ne (h : p.Lt q) : p.components ≠ q.components := by
  intro he
  rw [Lt, compareAll_eq_iff.2 he] at h
  cases h

end Order

/-! ### Sorting and removing repetitions -/

theorem mem_sort : p ∈ sort ps ↔ p ∈ ps := List.mem_mergeSort

theorem sorted_sort (ps : List Path) : (sort ps).Pairwise fun p q => p.le q = true :=
  @List.pairwise_mergeSort Path le (fun _ _ _ => le_trans) le_total ps

theorem mem_of_mem_dedup (h : p ∈ dedup ps) : p ∈ ps := by
  fun_induction dedup ps with
  | case1 => exact h
  | case2 => exact h
  | case3 q q' ps same ih =>
    rcases List.mem_cons.1 (ih h) with rfl | h
    · simp
    · simp [h]
  | case4 q q' ps same ih =>
    rcases List.mem_cons.1 h with rfl | h
    · simp
    · exact List.mem_cons_of_mem _ (ih h)

theorem exists_mem_dedup (h : p ∈ ps) : ∃ q ∈ dedup ps, q.components = p.components := by
  fun_induction dedup ps generalizing p with
  | case1 => cases h
  | case2 => exact ⟨_, List.mem_singleton_self _, by rw [List.mem_singleton.1 h]⟩
  | case3 q q' ps same ih =>
    have first := ih List.mem_cons_self
    have equal : q.components = q'.components := by simpa [Path.same] using same
    rcases List.mem_cons.1 h with rfl | h
    · exact first
    · rcases List.mem_cons.1 h with rfl | h
      · rwa [equal] at first
      · exact ih (List.mem_cons_of_mem _ h)
  | case4 q q' ps same ih =>
    rcases List.mem_cons.1 h with rfl | h
    · exact ⟨_, List.mem_cons_self, rfl⟩
    · obtain ⟨r, hr, he⟩ := ih h
      exact ⟨r, List.mem_cons_of_mem _ hr, he⟩

theorem pairwise_dedup (h : ps.Pairwise fun p q => p.le q = true) : (dedup ps).Pairwise Lt := by
  fun_induction dedup ps with
  | case1 => exact .nil
  | case2 => exact List.pairwise_singleton _ _
  | case3 q q' ps same ih => exact ih (h.sublist (.cons_cons q (List.sublist_cons_self q' ps)))
  | case4 q q' ps same ih =>
    obtain ⟨least, rest⟩ := List.pairwise_cons.1 h
    have next : q.Lt q' := lt_of_le_of_not_same (least q' List.mem_cons_self) same
    refine List.pairwise_cons.2 ⟨fun x hx => ?_, ih rest⟩
    rcases List.mem_cons.1 (mem_of_mem_dedup hx) with rfl | hx
    · exact next
    · exact next.trans_le ((List.pairwise_cons.1 rest).1 x hx)

/-- In a sorted list whose repetitions are removed, each path comes before those behind it. -/
theorem pairwise_sortDedup (ps : List Path) : (dedup (sort ps)).Pairwise Lt :=
  pairwise_dedup (sorted_sort ps)

end JsonSchema.Path
