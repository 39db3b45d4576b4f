import Mathlib.Tactic
import DeviceUsageStats.Spec.CommandLine

/-! Which options `ParseArg` finds. It takes the first token that begins with the key, exact or not, and so is
right where that token is exact. -/

namespace DeviceUsageStats

namespace CommandLine

/-! ### Scans -/

theorem findSome?_eq_bind {α β : Type*} (f : α → Option β) (l : List α) :
    l.findSome? f = (l.find? fun x => (f x).isSome).bind f := by
  induction l with
  | nil => rfl
  | cons x l ih =>
    rw [List.findSome?_cons, List.find?_cons]
    cases hx : f x with
    | none => exact ih
    | some b => exact hx.symm

/-- A scan that takes more finds what a narrow one finds where the first that it takes is taken by both. -/
theorem findSome?_of_find? {α β : Type*} {wide narrow : α → Option β}
    (h : ∀ x, (narrow x).isSome → (wide x).isSome) {l : List α} {x : α}
    (hx : l.find? (fun x => (wide x).isSome) = some x) (hnarrow : (narrow x).isSome) :
    l.findSome? narrow = narrow x := by
  obtain ⟨-, before, after, rfl, hbefore⟩ := List.find?_eq_some_iff_append.1 hx
  have hnone : before.findSome? narrow = none := List.findSome?_eq_none_iff.2 fun y hy => by
    by_contra hne
    have hwide := h y (Option.isSome_iff_ne_none.2 hne)
    simpa [hwide] using hbefore y hy
  obtain ⟨value, hvalue⟩ := Option.isSome_iff_exists.1 hnarrow
  rw [List.findSome?_append, hnone, Option.none_or, List.findSome?_cons, hvalue]

/-- The tokens, each with the next entry if that is a token. -/
def withNext : Argv → List (Text × Option Text)
  | [] => []
  | none :: rest => withNext rest
  | some arg :: rest => (arg, rest.head?.join) :: withNext rest

def valueAfter (next : Option Text) : Option Text := next.filter fun value => value.head? ≠ some '-'

def takenValue (key : Text) (token : Text × Option Text) : Option Text :=
  if (dashed key).isPrefixOf token.1 then
    if '=' ∈ token.1 then some (afterEquals token.1) else valueAfter token.2
  else none

/-- The value of a token that is `--key=value`, or `--key` with a value after it. -/
def exactValue (key : Text) (token : Text × Option Text) : Option Text :=
  if (dashed key ++ ['=']).isPrefixOf token.1 then some (token.1.drop (dashed key ++ ['=']).length)
  else if token.1 = dashed key then valueAfter token.2
  else none

theorem exactValue_eq_some_iff {key : Text} {token : Text × Option Text} {value : Text} :
    exactValue key token = some value ↔
      token.1 = dashed key ++ '=' :: value ∨
        token.1 = dashed key ∧ token.2 = some value ∧ value.head? ≠ some '-' := by
  unfold exactValue
  split_ifs with hequals hbare
  · obtain ⟨rest, hrest⟩ := List.isPrefixOf_iff_prefix.1 hequals
    have hne : token.1 ≠ dashed key := fun heq => by
      have hlength := congrArg List.length (hrest.trans heq)
      simp at hlength
    rw [or_iff_left fun h => hne h.1, ← hrest, List.drop_left, Option.some_inj, List.append_assoc,
      List.append_cancel_left_eq, List.singleton_append, List.cons_inj_right]
  · have hne : token.1 ≠ dashed key ++ '=' :: value := fun heq => by
      have hlength := congrArg List.length (hbare.symm.trans heq)
      simp at hlength
    rw [or_iff_right hne, valueAfter, Option.filter_eq_some_iff, decide_eq_true_eq]
    exact (and_iff_right hbare).symm
  · refine iff_of_false (by simp) ?_
    rintro (heq | heq)
    · refine hequals (List.isPrefixOf_iff_prefix.2 ⟨value, ?_⟩)
      rw [heq, List.append_assoc]
      rfl
    · exact hbare heq.1

theorem parseArgLoop_cons (key defaultValue arg : Text) (rest : Argv) :
    parseArgLoop key defaultValue (some arg :: rest) =
      (takenValue key (arg, rest.head?.join)).getD (parseArgLoop key defaultValue rest) := by
  unfold takenValue
  rw [parseArgLoop.eq_def]
  simp only
  by_cases hprefix : (dashed key).isPrefixOf arg = true
  · rw [if_pos hprefix, if_pos hprefix]
    by_cases hequals : '=' ∈ arg
    · rw [if_pos hequals, if_pos hequals]
      rfl
    · rw [if_neg hequals, if_neg hequals, valueAfter]
      rcases rest with _ | ⟨_ | next, rest⟩
      · rfl
      · rfl
      · simp only [List.head?_cons, Option.join_some, Option.filter_some, decide_eq_true_eq]
        split_ifs <;> rfl
  · rw [if_neg hprefix, if_neg hprefix]
    rfl

theorem parseArg_eq (argv : Argv) (key defaultValue : Text) :
    parseArg argv key defaultValue = ((withNext argv).findSome? (takenValue key)).getD defaultValue := by
  have hloop : parseArg argv key defaultValue = parseArgLoop key defaultValue argv := by
    cases argv <;> rfl
  rw [hloop]
  clear hloop
  induction argv with
  | nil => rfl
  | cons entry rest ih =>
    cases entry with
    | none => exact ih
    | some arg =>
      rw [parseArgLoop_cons, ih, withNext, List.findSome?_cons]
      cases takenValue key (arg, rest.head?.join) <;> rfl

/-! ### Options -/

def wantedArg (argv : Argv) (key defaultValue : Text) : Text :=
  ((withNext argv).findSome? (exactValue key)).getD defaultValue

theorem afterEquals_dashed {key : Text} (hkey : '=' ∉ key) (value : Text) :
    afterEquals (dashed key ++ '=' :: value) = value := by
  have hno : ∀ c ∈ dashed key, decide (c ≠ '=') = true := fun c hc => by
    rcases List.mem_cons.1 hc with rfl | hc
    · rfl
    · rcases List.mem_cons.1 hc with rfl | hc
      · rfl
      · exact decide_eq_true fun heq => hkey (heq ▸ hc)
  rw [afterEquals, List.dropWhile_append_of_pos hno, List.dropWhile_cons_of_neg (by simp)]
  rfl

theorem isPrefixOf_dashed (key rest : Text) : (dashed key).isPrefixOf (dashed key ++ rest) = true :=
  List.isPrefixOf_iff_prefix.2 (List.prefix_append ..)

theorem takenValue_eq_of_exact {key : Text} {token : Text × Option Text} {value : Text}
    (hkey : '=' ∉ key) (h : exactValue key token = some value) : takenValue key token = some value := by
  unfold takenValue
  rcases exactValue_eq_some_iff.1 h with heq | ⟨hbare, hnext, hvalue⟩
  · rw [heq, if_pos (isPrefixOf_dashed key _), if_pos (by simp), afterEquals_dashed hkey]
  · have hno : '=' ∉ dashed key := by simpa [dashed] using hkey
    have hprefix := isPrefixOf_dashed key []
    rw [List.append_nil] at hprefix
    rw [hbare, if_pos hprefix, if_neg hno, valueAfter, hnext, Option.filter_some,
      if_pos (by simpa using hvalue)]

theorem takenValue_isSome_of_exact {key : Text} {token : Text × Option Text}
    (h : (exactValue key token).isSome) : (takenValue key token).isSome := by
  obtain ⟨value, hvalue⟩ := Option.isSome_iff_exists.1 h
  by_cases hkey : '=' ∈ key
  · have hequals : '=' ∈ token.1 ∧ (dashed key).isPrefixOf token.1 = true := by
      rcases exactValue_eq_some_iff.1 hvalue with heq | ⟨hbare, -, -⟩
      · rw [heq]
        exact ⟨by simp, isPrefixOf_dashed key _⟩
      · rw [hbare]
        exact ⟨by simp [dashed, hkey], by simp⟩
    rw [takenValue, if_pos hequals.2, if_pos hequals.1]
    rfl
  · rw [takenValue_eq_of_exact hkey hvalue]
    rfl

/-- Where the first token that the loop takes is exact, its value is that of the first exact option. -/
theorem parseArg_eq_wantedArg (argv : Argv) (key defaultValue : Text)
    (hexact : ∀ token ∈ (withNext argv).find? fun token => (takenValue key token).isSome,
      '=' ∉ key ∧ (exactValue key token).isSome) :
    parseArg argv key defaultValue = wantedArg argv key defaultValue := by
  rw [parseArg_eq, findSome?_eq_bind]
  cases hfind : (withNext argv).find? fun token => (takenValue key token).isSome with
  | none =>
    have hnone : (withNext argv).findSome? (exactValue key) = none :=
      List.findSome?_eq_none_iff.2 fun token htoken => by
        by_contra hne
        exact List.find?_eq_none.1 hfind token htoken
          (takenValue_isSome_of_exact (Option.isSome_iff_ne_none.2 hne))
    rw [wantedArg, hnone]
    rfl
  | some token =>
    obtain ⟨hkey, htoken⟩ := hexact token hfind
    obtain ⟨value, hvalue⟩ := Option.isSome_iff_exists.1 htoken
    have hwanted := findSome?_of_find? (fun token => takenValue_isSome_of_exact) hfind htoken
    rw [wantedArg, hwanted, Option.bind_some, hvalue, takenValue_eq_of_exact hkey hvalue]

/-- The option that is asked for, and after it one whose name begins with its name. -/
def exactFirst : Argv :=
  [some "--users".toList, some "--user".toList, some "100".toList, some "--users=5".toList]

theorem parseArg_eq_wantedArg_exactFirst :
    parseArg exactFirst "user".toList [] = wantedArg exactFirst "user".toList [] :=
  parseArg_eq_wantedArg exactFirst "user".toList [] (by decide +kernel)

/-- An unknown option before the one that is asked for. -/
def otherOption : Argv :=
  [some "--users=5".toList, some "--user".toList, some "100".toList]

theorem parseArg_ne_wantedArg_otherOption :
    parseArg otherOption "user".toList [] ≠ wantedArg otherOption "user".toList [] := by
  decide +kernel

example : parseArg otherOption "user".toList [] = "5".toList := by decide +kernel

end CommandLine

end DeviceUsageStats
