import Mathlib.Data.List.DropRight
import VlanBinding.Cli.Run

/-!
Joining the parts of a URL. What becomes of two parts is told by what they have at the seam. Main
statement: joining is associative and cannot tell one slash at a seam from many or from none, also
if a part in the middle has nothing else, and the URLs that the service is asked under are joined
so as well.
-/

namespace VlanBinding.Http

/-! ## Trimming -/

theorem trimEnd_eq (cs : List Char) : trimEnd cs = (trimStart cs.reverse).reverse := rfl

theorem trimStart_trimStart (cs : List Char) : trimStart (trimStart cs) = trimStart cs :=
  List.dropWhile_idempotent _ _

theorem trimEnd_trimEnd (cs : List Char) : trimEnd (trimEnd cs) = trimEnd cs :=
  List.rdropWhile_idempotent _ _

theorem trimStart_eq_self_iff {cs : List Char} : trimStart cs = cs ↔ cs.head? ≠ some '/' := by
  rw [trimStart, List.dropWhile_eq_self_iff]
  cases cs with
  | nil => simp
  | cons c cs => simp

theorem trimEnd_eq_self_iff {cs : List Char} : trimEnd cs = cs ↔ cs.getLast? ≠ some '/' := by
  rw [trimEnd_eq, List.reverse_eq_iff, trimStart_eq_self_iff, List.head?_reverse]

/-- Only slashes are taken off a start. -/
theorem exists_slashes_trimStart (cs : List Char) :
    ∃ n, cs = List.replicate n '/' ++ trimStart cs := by
  have hslashes : ∀ c ∈ cs.takeWhile (· = '/'), c = '/' := by
    intro c hc
    simpa using List.mem_takeWhile_imp hc
  refine ⟨(cs.takeWhile (· = '/')).length, ?_⟩
  rw [← List.eq_replicate_of_mem hslashes, trimStart, List.takeWhile_append_dropWhile]

/-- Only slashes are taken off an end. -/
theorem exists_trimEnd_slashes (cs : List Char) :
    ∃ n, cs = trimEnd cs ++ List.replicate n '/' := by
  obtain ⟨n, hn⟩ := exists_slashes_trimStart cs.reverse
  refine ⟨n, ?_⟩
  rw [trimEnd_eq, ← List.reverse_replicate, ← List.reverse_append, ← hn, List.reverse_reverse]

theorem trimStart_append_of_head? {cs : List Char} (hne : cs ≠ []) (hhead : cs.head? ≠ some '/')
    (rest : List Char) : trimStart (cs ++ rest) = cs ++ rest := by
  rwa [trimStart_eq_self_iff, List.head?_append_of_ne_nil _ hne]

theorem trimEnd_append_of_getLast? {cs : List Char} (hne : cs ≠ [])
    (hlast : cs.getLast? ≠ some '/') (rest : List Char) :
    trimEnd (rest ++ cs) = rest ++ cs := by
  rwa [trimEnd_eq_self_iff, List.getLast?_append_of_ne_nil _ hne]

/-- A text has nothing but slashes, or there is something between the slashes around it. -/
theorem eq_slashes_or_exists_core (cs : List Char) :
    (∃ n, cs = List.replicate n '/') ∨
      ∃ m core n, cs = List.replicate m '/' ++ (core ++ List.replicate n '/') ∧
        core ≠ [] ∧ core.head? ≠ some '/' ∧ core.getLast? ≠ some '/' := by
  obtain ⟨m, hm⟩ := exists_slashes_trimStart cs
  obtain ⟨n, hn⟩ := exists_trimEnd_slashes (trimStart cs)
  by_cases hne : trimEnd (trimStart cs) = []
  · left
    refine ⟨m + n, ?_⟩
    rw [hne, List.nil_append] at hn
    rw [← List.replicate_append_replicate, ← hn]
    exact hm
  · right
    refine ⟨m, trimEnd (trimStart cs), n, ?_, hne, ?_, ?_⟩
    · rw [← hn]
      exact hm
    · -- the text begins as its core does, for the core is not empty
      have hhead := trimStart_eq_self_iff.mp (trimStart_trimStart cs)
      rwa [hn, List.head?_append_of_ne_nil _ hne] at hhead
    · exact trimEnd_eq_self_iff.mp (trimEnd_trimEnd _)

/-! ## Seams -/

/-- Slashes only, so many of them. -/
def slashes (n : Nat) : String := String.ofList (List.replicate n '/')

/-- What a base and a path come to without the slashes at the seam between them. -/
structure Seam (base path front back : String) : Prop where
  base_eq : ∃ n, base = front ++ slashes n
  path_eq : ∃ n, path = slashes n ++ back
  getLast?_ne : front.toList.getLast? ≠ some '/'
  head?_ne : back.toList.head? ≠ some '/'

variable {base path front back text : String}

theorem toList_joinUrl (base path : String) :
    (joinUrl base path).toList = trimEnd base.toList ++ '/' :: trimStart path.toList :=
  String.toList_ofList

theorem toList_slashes (n : Nat) : (slashes n).toList = List.replicate n '/' :=
  String.toList_ofList

theorem Seam.joinUrl_eq (h : Seam base path front back) :
    joinUrl base path = front ++ "/" ++ back := by
  obtain ⟨m, rfl⟩ := h.base_eq
  obtain ⟨n, rfl⟩ := h.path_eq
  apply String.toList_inj.mp
  rw [toList_joinUrl, String.toList_append, String.toList_append, toList_slashes, toList_slashes,
    trimEnd_replicate, trimStart_replicate, trimEnd_eq_self_iff.mpr h.getLast?_ne,
    trimStart_eq_self_iff.mpr h.head?_ne]
  simp

theorem exists_seam (base path : String) : ∃ front back, Seam base path front back := by
  obtain ⟨m, hm⟩ := exists_trimEnd_slashes base.toList
  obtain ⟨n, hn⟩ := exists_slashes_trimStart path.toList
  refine ⟨String.ofList (trimEnd base.toList), String.ofList (trimStart path.toList),
    ⟨m, ?_⟩, ⟨n, ?_⟩, ?_, ?_⟩
  · rw [slashes, ← String.ofList_append, ← hm, String.ofList_toList]
  · rw [slashes, ← String.ofList_append, ← hn, String.ofList_toList]
  · rw [String.toList_ofList]
    exact trimEnd_eq_self_iff.mp (trimEnd_trimEnd _)
  · rw [String.toList_ofList]
    exact trimStart_eq_self_iff.mp (trimStart_trimStart _)

/-- What results is what the two parts come to, with one slash between. -/
theorem joinUrl_eq_iff :
    joinUrl base path = text ↔
      ∃ front back, Seam base path front back ∧ text = front ++ "/" ++ back := by
  constructor
  · rintro rfl
    obtain ⟨front, back, h⟩ := exists_seam base path
    exact ⟨front, back, h, h.joinUrl_eq⟩
  · rintro ⟨front, back, h, rfl⟩
    exact h.joinUrl_eq

/-- Slashes that are added at the seam make no difference. -/
theorem joinUrl_slashes (base path : String) (m n : Nat) :
    joinUrl (base ++ slashes m) (slashes n ++ path) = joinUrl base path := by
  apply String.toList_inj.mp
  rw [toList_joinUrl, toList_joinUrl, String.toList_append, String.toList_append, toList_slashes,
    toList_slashes, trimEnd_replicate, trimStart_replicate]

/-! ## Several parts -/

/-- Of two seams, either can be closed first. -/
theorem trim_seams (first middle last : List Char) :
    trimEnd (trimEnd first ++ '/' :: trimStart middle) ++ '/' :: trimStart last =
      trimEnd first ++ '/' :: trimStart (trimEnd middle ++ '/' :: trimStart last) := by
  rcases eq_slashes_or_exists_core middle with ⟨n, rfl⟩ | ⟨m, core, n, rfl, hne, hhead, hlast⟩
  · -- nothing is left of the middle, so that the slash of one seam is surplus at the other
    have hstart : trimStart (List.replicate n '/') = [] := by
      simp [trimStart]
    have hend : trimEnd (List.replicate n '/') = [] := by
      simp [trimEnd]
    have hfirst : trimEnd (trimEnd first ++ ['/']) = trimEnd first :=
      (trimEnd_replicate 1 (trimEnd first)).trans (trimEnd_trimEnd first)
    have hsecond : trimStart ('/' :: trimStart last) = trimStart last :=
      (trimStart_replicate 1 (trimStart last)).trans (trimStart_trimStart last)
    rw [hstart, hend, hfirst, List.nil_append, hsecond]
  · have hstart : trimStart (List.replicate m '/' ++ (core ++ List.replicate n '/')) =
        core ++ List.replicate n '/' := by
      rw [trimStart_replicate, trimStart_append_of_head? hne hhead]
    have hend : trimEnd (List.replicate m '/' ++ (core ++ List.replicate n '/')) =
        List.replicate m '/' ++ core := by
      rw [← List.append_assoc, trimEnd_replicate, trimEnd_append_of_getLast? hne hlast]
    have hfirst : trimEnd (trimEnd first ++ '/' :: (core ++ List.replicate n '/')) =
        trimEnd first ++ '/' :: core := by
      rw [← List.cons_append, ← List.append_assoc, trimEnd_replicate, List.append_cons,
        trimEnd_append_of_getLast? hne hlast]
    have hsecond : trimStart (List.replicate m '/' ++ core ++ '/' :: trimStart last) =
        core ++ '/' :: trimStart last := by
      rw [List.append_assoc, trimStart_replicate, trimStart_append_of_head? hne hhead]
    rw [hstart, hend, hfirst, hsecond, List.append_assoc, List.cons_append]

theorem joinUrl_assoc (first middle last : String) :
    joinUrl (joinUrl first middle) last = joinUrl first (joinUrl middle last) := by
  apply String.toList_inj.mp
  rw [toList_joinUrl, toList_joinUrl, toList_joinUrl, toList_joinUrl, trim_seams]

/-- What the service is asked under is below the server connection and `api`. -/
theorem apiUrl_eq_joinUrl (connection path : String) :
    Cli.apiUrl connection path = joinUrl (joinUrl connection "api") path := by
  have hend : trimEnd (trimEnd connection.toList ++ '/' :: trimStart "api".toList) =
      trimEnd connection.toList ++ "/api".toList :=
    trimEnd_append_of_getLast? (by decide) (by decide) _
  apply String.toList_inj.mp
  rw [toList_joinUrl, toList_joinUrl, hend, Cli.apiUrl, String.toList_ofList]
  simp

/-- Joining closes a seam with one slash, whatever slashes the parts have there, and more than two
parts can be joined in either order; the URLs that the service is asked under are such. -/
theorem surplus_slashes_immaterial (a b c : String) :
    joinUrl (joinUrl a b) c = joinUrl a (joinUrl b c) ∧
      (∀ m n, joinUrl (a ++ slashes m) (slashes n ++ b) = joinUrl a b) ∧
      (∀ text, joinUrl a b = text ↔
        ∃ front back, Seam a b front back ∧ text = front ++ "/" ++ back) ∧
      Cli.apiUrl a b = joinUrl (joinUrl a "api") b :=
  ⟨joinUrl_assoc a b c, joinUrl_slashes a b, fun _ => joinUrl_eq_iff, apiUrl_eq_joinUrl a b⟩

example : joinUrl (joinUrl "http://host/" "//") "/v2.0/" = "http://host/v2.0/" := by decide +kernel

end VlanBinding.Http
