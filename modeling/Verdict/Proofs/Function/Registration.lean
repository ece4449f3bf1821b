import Verdict.Proofs.Function.Registry
import Mathlib.Data.List.Nodup

/-!
# Registering many functions

Functions are registered one after another, and some of them may be refused.  The first function with
a proper name gets the name for good: what is registered later under that name either is the same
function, and nothing happens, or it is refused, and nothing happens either.  So what is found in the
end can be told from the functions alone, `find?_after`; and a run in which none is refused can be in
any order, `registerAll_perm`.
-/

namespace Verdict

variable {σ : Type}

/-! ### Names -/

namespace Function

/-- Letters, digits, underscores and points, the first one a letter or an underscore and the last one
not a point. -/
def ProperName (name : String) : Prop :=
  ∃ c cs, name.toList = c :: cs ∧
    (('A' ≤ c ∧ c ≤ 'Z') ∨ ('a' ≤ c ∧ c ≤ 'z') ∨ c = '_') ∧
    (∀ d ∈ cs, ('A' ≤ d ∧ d ≤ 'Z') ∨ ('a' ≤ d ∧ d ≤ 'z') ∨ ('0' ≤ d ∧ d ≤ '9') ∨ d = '_' ∨ d = '.') ∧
    ¬ ['.'] <:+ name.toList

theorem isAlpha_iff {c : Char} :
    c.isAlpha = true ↔ ('A' ≤ c ∧ c ≤ 'Z') ∨ ('a' ≤ c ∧ c ≤ 'z') :=
  Bool.or_eq_true_iff.trans (or_congr decide_eq_true_iff
    (Bool.and_eq_true_iff.trans (and_congr decide_eq_true_iff decide_eq_true_iff)))

theorem isAlphanum_iff {c : Char} :
    c.isAlphanum = true ↔
      (('A' ≤ c ∧ c ≤ 'Z') ∨ ('a' ≤ c ∧ c ≤ 'z')) ∨ ('0' ≤ c ∧ c ≤ '9') :=
  Bool.or_eq_true_iff.trans (or_congr isAlpha_iff
    (Bool.and_eq_true_iff.trans (and_congr decide_eq_true_iff decide_eq_true_iff)))

theorem isNameStart_iff {c : Char} :
    isNameStart c = true ↔ ('A' ≤ c ∧ c ≤ 'Z') ∨ ('a' ≤ c ∧ c ≤ 'z') ∨ c = '_' := by
  rw [isNameStart, Bool.or_eq_true, isAlpha_iff, beq_iff_eq, or_assoc]

theorem isNameChar_iff {c : Char} :
    isNameChar c = true ↔
      ('A' ≤ c ∧ c ≤ 'Z') ∨ ('a' ≤ c ∧ c ≤ 'z') ∨ ('0' ≤ c ∧ c ≤ '9') ∨ c = '_' ∨ c = '.' := by
  rw [isNameChar, Bool.or_eq_true, Bool.or_eq_true, isAlphanum_iff, beq_iff_eq, beq_iff_eq]
  simp only [or_assoc]

theorem isName_iff {name : String} : isName name = true ↔ ProperName name := by
  unfold isName ProperName
  cases name.toList with
  | nil => simp
  | cons c cs =>
    simp [isNameStart_iff, isNameChar_iff, and_assoc, List.singleton_suffix_iff_getLast?_eq_some]

instance (name : String) : Decidable (ProperName name) :=
  decidable_of_iff _ isName_iff

/-- The functions have the same signature and the same implementation, by its label. -/
structure Alike (f g : Function σ) : Prop where
  signature : f.signature = g.signature
  label : f.implementation.label = g.implementation.label

namespace Alike

variable {f g h : Function σ}

theorem refl (f : Function σ) : f.Alike f :=
  ⟨rfl, rfl⟩

theorem symm (a : f.Alike g) : g.Alike f :=
  ⟨a.signature.symm, a.label.symm⟩

theorem trans (a : f.Alike g) (b : g.Alike h) : f.Alike h :=
  ⟨a.signature.trans b.signature, a.label.trans b.label⟩

end Alike

end Function

namespace Registry

variable {r r' : Registry σ} {f g : Function σ} {fs gs : List (Function σ)} {name : String}

/-! ### What is found -/

theorem mem_names_iff : name ∈ r.names ↔ (r.find? name).isSome = true := by
  simp [names, find?, List.mem_map]

theorem find?_eq_none_iff : r.find? name = none ↔ name ∉ r.names := by
  rw [mem_names_iff, Option.not_isSome_iff_eq_none]

theorem nodup_names (r : Registry σ) : r.names.Nodup := by
  rw [names, List.Nodup, List.pairwise_map]
  refine r.ascending.imp fun {f g} before same => ?_
  exact String.lt_irrefl g.name (same ▸ before)

/-- Each function is found under its name. -/
theorem mem_functions_iff : f ∈ r.functions ↔ r.find? f.name = some f := by
  refine ⟨fun mem => ?_, List.mem_of_find?_eq_some⟩
  cases h : r.find? f.name with
  | none => exact absurd (List.mem_map_of_mem mem) (find?_eq_none_iff.1 h)
  | some g =>
    have here := List.mem_of_find?_eq_some h
    rw [List.inj_on_of_nodup_map r.nodup_names here mem (name_of_find? h)]

/-- Registries in which the same is found are the same. -/
theorem eq_of_find?_eq (same : ∀ name, r.find? name = r'.find? name) : r = r' := by
  have perm : r.functions.Perm r'.functions := by
    refine (List.perm_ext_iff_of_nodup (List.Nodup.of_map _ r.nodup_names)
      (List.Nodup.of_map _ r'.nodup_names)).2 fun f => ?_
    rw [mem_functions_iff, mem_functions_iff, same]
  have equal : r.functions = r'.functions :=
    perm.eq_of_pairwise (fun f g _ _ before after => absurd before (String.lt_asymm after))
      r.ascending r'.ascending
  cases r
  cases r'
  obtain rfl := equal
  rfl

theorem find?_place_of_ne (other : f.name ≠ name) (fs : List (Function σ)) :
    (f.place fs).find? (fun g => g.name == name) = fs.find? fun g => g.name == name := by
  induction fs with
  | nil => simp [Function.place, other]
  | cons g gs ih =>
    rw [Function.place]
    split
    · rw [List.find?_cons_of_neg (by simpa using other)]
    · rw [List.find?_cons, List.find?_cons, ih]

theorem find?_insert_of_ne (new : r.find? f.name = none) (other : f.name ≠ name) :
    (r.insert f new).find? name = r.find? name :=
  find?_place_of_ne other r.functions

/-! ### Registering a function -/

theorem register_of_not_isName (improper : ¬ Function.isName f.name = true) :
    r.register f = .error (.invalidName f.name) := by
  rw [register, if_neg improper]

theorem register_of_find?_none (proper : Function.isName f.name = true)
    (new : r.find? f.name = none) : r.register f = .ok (r.insert f new) := by
  rw [register, if_pos proper]
  split
  · rfl
  · rename_i h
    rw [new] at h
    cases h

theorem register_of_find?_some (proper : Function.isName f.name = true)
    (found : r.find? f.name = some g) :
    r.register f =
      if g.signature ≠ f.signature then .error (.incompatible f.name g.signature f.signature)
      else if g.implementation.label ≠ f.implementation.label then .error (.duplicate f.name)
      else .ok r := by
  rw [register, if_pos proper]
  split
  · rename_i h
    rw [found] at h
    cases h
  · rename_i h
    obtain rfl : _ = g := Option.some.inj (h.symm.trans found)
    rfl

theorem register_of_alike (proper : Function.isName f.name = true)
    (found : r.find? f.name = some g) (alike : g.Alike f) : r.register f = .ok r := by
  rw [register_of_find?_some proper found, if_neg (not_not.2 alike.signature),
    if_neg (not_not.2 alike.label)]

/-- A function is registered if its name is proper, and new or that of a function like it. -/
theorem exists_register_eq_ok_iff :
    (∃ r', r.register f = .ok r') ↔
      Function.ProperName f.name ∧ ∀ g, r.find? f.name = some g → g.Alike f := by
  rw [← Function.isName_iff]
  constructor
  · rintro ⟨r', h⟩
    have proper := isName_of_register h
    refine ⟨proper, fun g found => ?_⟩
    rw [register_of_find?_some proper found] at h
    split at h
    · cases h
    · split at h
      · cases h
      · exact ⟨not_not.1 ‹_›, not_not.1 ‹_›⟩
  · rintro ⟨proper, alike⟩
    cases found : r.find? f.name with
    | none => exact ⟨_, register_of_find?_none proper found⟩
    | some g => exact ⟨r, register_of_alike proper found (alike g found)⟩

/-- Why a function is refused: first of all for its name, then for its signature, and only then for its
implementation. -/
theorem register_eq_error_iff {e : Function.Error} :
    r.register f = .error e ↔
      (¬ Function.ProperName f.name ∧ e = .invalidName f.name) ∨
      Function.ProperName f.name ∧ ∃ g, r.find? f.name = some g ∧
        (g.signature ≠ f.signature ∧ e = .incompatible f.name g.signature f.signature ∨
          g.signature = f.signature ∧ g.implementation.label ≠ f.implementation.label ∧
            e = .duplicate f.name) := by
  rw [← Function.isName_iff]
  by_cases proper : Function.isName f.name = true
  · cases found : r.find? f.name with
    | none => simp [register_of_find?_none proper found, proper]
    | some g =>
      rw [register_of_find?_some proper found]
      by_cases signature : g.signature = f.signature
      · by_cases label : g.implementation.label = f.implementation.label
        · simp [proper, signature, label]
        · simp [proper, signature, label, @eq_comm _ e]
      · simp [proper, signature, @eq_comm _ e]
  · simp [register_of_not_isName proper, proper, eq_comm]

theorem register_eq_self (h : r.register f = .ok r') (old : (r.find? f.name).isSome = true) :
    r' = r := by
  obtain ⟨g, found⟩ := Option.isSome_iff_exists.1 old
  have alike := (exists_register_eq_ok_iff.1 ⟨r', h⟩).2 g found
  rw [register_of_alike (isName_of_register h) found alike] at h
  exact (Except.ok.inj h).symm

/-! ### Registering functions one after another -/

theorem after_of_old (old : (r.find? f.name).isSome = true) : r.after [f] = r := by
  cases h : r.register f with
  | error e => exact after_of_refused (by simp [h])
  | ok r' => rw [after_of_register h, register_eq_self h old]

/-- One function more is found at most, and only under its own name. -/
theorem find?_after_single (r : Registry σ) (f : Function σ) (name : String) :
    (r.after [f]).find? name =
      (r.find? name).or (if f.name = name ∧ Function.ProperName name then some f else none) := by
  by_cases same : f.name = name
  · subst same
    cases found : r.find? f.name with
    | some g =>
      rw [after_of_old (by rw [found]; rfl), found]
      rfl
    | none =>
      by_cases proper : Function.ProperName f.name
      · rw [after_of_register (register_of_find?_none (Function.isName_iff.2 proper) found),
          find?_insert]
        simp [proper]
      · rw [after_of_refused fun h => proper (exists_register_eq_ok_iff.1 h).1, found]
        simp [proper]
  · rw [if_neg fun h => same h.1, Option.or_none]
    cases h : r.register f with
    | error e => rw [after_of_refused (by simp [h])]
    | ok r' =>
      rw [after_of_register h]
      cases found : r.find? f.name with
      | some g => rw [register_eq_self h (by rw [found]; rfl)]
      | none =>
        rw [register_of_find?_none (isName_of_register h) found] at h
        obtain rfl := Except.ok.inj h
        exact find?_insert_of_ne found same

/-- What was there before is found in the end, and else the first function with that name. -/
theorem find?_after (r : Registry σ) (fs : List (Function σ)) (name : String) :
    (r.after fs).find? name =
      (r.find? name).or (fs.find? fun f => f.name = name ∧ Function.ProperName name) := by
  induction fs generalizing r with
  | nil => exact Option.or_none.symm
  | cons f fs ih =>
    rw [after_cons, ih, find?_after_single, Option.or_assoc]
    by_cases first : f.name = name ∧ Function.ProperName name
    · rw [if_pos first, List.find?_cons_of_pos (by simpa using first), Option.some_or]
    · rw [if_neg first, List.find?_cons_of_neg (by simpa using first), Option.none_or]

theorem mem_names_after :
    name ∈ (r.after fs).names ↔
      name ∈ r.names ∨ ∃ f ∈ fs, f.name = name ∧ Function.ProperName name := by
  rw [mem_names_iff, mem_names_iff, find?_after, Option.isSome_or, Bool.or_eq_true,
    List.find?_isSome]
  simp

/-! ### Runs in which no function is refused -/

/-- Registers functions one after another, up to the first one that is refused. -/
def registerAll (r : Registry σ) : List (Function σ) → Except Function.Error (Registry σ)
  | [] => .ok r
  | f :: fs => do
    let r ← r.register f
    r.registerAll fs

theorem eq_after_of_registerAll (h : r.registerAll fs = .ok r') : r' = r.after fs := by
  induction fs generalizing r with
  | nil => exact (Except.ok.inj h).symm
  | cons f fs ih =>
    rw [registerAll] at h
    cases first : r.register f with
    | error e =>
      rw [first] at h
      cases h
    | ok r₁ =>
      rw [first] at h
      rw [after_cons, after_of_register first]
      exact ih h

/-- The functions have proper names, and those of one name are alike, with the function that has the name
already if there is one. -/
structure Admits (r : Registry σ) (fs : List (Function σ)) : Prop where
  proper : ∀ f ∈ fs, Function.ProperName f.name
  old : ∀ f ∈ fs, ∀ g, r.find? f.name = some g → g.Alike f
  new : ∀ f ∈ fs, ∀ g ∈ fs, f.name = g.name → f.Alike g

/-- The order of the functions is of no account. -/
theorem Admits.perm (h : r.Admits fs) (perm : gs.Perm fs) : r.Admits gs where
  proper f mem := h.proper f (perm.subset mem)
  old f mem := h.old f (perm.subset mem)
  new f mem g mem' := h.new f (perm.subset mem) g (perm.subset mem')

theorem admits_cons_iff :
    r.Admits (f :: fs) ↔ (∃ r', r.register f = .ok r') ∧ (r.after [f]).Admits fs := by
  rw [exists_register_eq_ok_iff]
  constructor
  · intro h
    have first := h.proper f (by simp)
    refine ⟨⟨first, h.old f (by simp)⟩, ⟨fun g mem => h.proper g (List.mem_cons_of_mem f mem), ?_,
      fun g mem k mem' => h.new g (List.mem_cons_of_mem f mem) k (List.mem_cons_of_mem f mem')⟩⟩
    intro g mem k found
    rw [find?_after_single] at found
    rcases Option.or_eq_some_iff.1 found with old | ⟨-, now⟩
    · exact h.old g (List.mem_cons_of_mem f mem) k old
    · obtain ⟨same, now⟩ := Option.ite_none_right_eq_some.1 now
      obtain rfl := Option.some.inj now
      exact h.new f (by simp) g (List.mem_cons_of_mem f mem) same.1
  · rintro ⟨⟨first, alike⟩, h⟩
    have like {g : Function σ} (mem : g ∈ fs) (same : f.name = g.name) : f.Alike g := by
      cases found : r.find? g.name with
      | none =>
        refine h.old g mem f ?_
        rw [find?_after_single, found, if_pos ⟨same, same ▸ first⟩]
        rfl
      | some k =>
        have kept : (r.after [f]).find? g.name = some k := by
          rw [find?_after_single, found]
          rfl
        exact (alike k (same ▸ found)).symm.trans (h.old g mem k kept)
    refine ⟨?_, ?_, ?_⟩
    · exact List.forall_mem_cons.2 ⟨first, h.proper⟩
    · refine List.forall_mem_cons.2 ⟨alike, fun g mem k found => h.old g mem k ?_⟩
      rw [find?_after_single, found]
      rfl
    · refine List.forall_mem_cons.2 ⟨List.forall_mem_cons.2 ⟨fun _ => .refl f, fun g mem => like mem⟩,
        fun g mem => List.forall_mem_cons.2 ⟨fun same => (like mem same.symm).symm, h.new g mem⟩⟩

/-- None of the functions is refused just when all of them are admitted together. -/
theorem registerAll_eq_ok_iff : r.registerAll fs = .ok (r.after fs) ↔ r.Admits fs := by
  induction fs generalizing r with
  | nil => exact ⟨fun _ => ⟨by simp, by simp, by simp⟩, fun _ => rfl⟩
  | cons f fs ih =>
    rw [admits_cons_iff, registerAll, after_cons, ← ih]
    cases first : r.register f with
    | error e => exact ⟨fun h => (nomatch h), fun h => absurd h.1 (by simp)⟩
    | ok r₁ =>
      rw [after_of_register first]
      exact ⟨fun h => ⟨⟨r₁, rfl⟩, h⟩, fun h => h.2⟩

/-- Labels tell implementations apart. -/
def Labelled (fs : List (Function σ)) : Prop :=
  ∀ f ∈ fs, ∀ g ∈ fs, f.implementation.label = g.implementation.label →
    f.implementation = g.implementation

theorem Admits.eq_of_name_eq (h : r.Admits fs) (labelled : Labelled fs) (mem : f ∈ fs) (mem' : g ∈ fs)
    (same : f.name = g.name) : f = g := by
  have alike := h.new f mem g mem' same
  have implementation := labelled f mem g mem' alike.label
  cases f
  cases g
  obtain rfl : _ = _ := same
  obtain rfl : _ = _ := alike.signature
  obtain rfl : _ = _ := implementation
  rfl

theorem find?_perm {α : Type} {p : α → Bool} {as bs : List α} (perm : as.Perm bs)
    (only : ∀ a ∈ bs, ∀ b ∈ bs, p a = true → p b = true → a = b) : as.find? p = bs.find? p := by
  cases h : as.find? p with
  | none =>
    refine (List.find?_eq_none.2 fun a mem => ?_).symm
    exact List.find?_eq_none.1 h a (perm.mem_iff.2 mem)
  | some a =>
    have mem : a ∈ bs := perm.mem_iff.1 (List.mem_of_find?_eq_some h)
    cases h' : bs.find? p with
    | none => exact absurd (List.find?_some h) (List.find?_eq_none.1 h' a mem)
    | some b =>
      rw [only a mem b (List.mem_of_find?_eq_some h') (List.find?_some h) (List.find?_some h')]

/-- A run in which no function is refused comes to the same in any order. -/
theorem registerAll_perm (labelled : Labelled fs) (h : r.registerAll fs = .ok r')
    (perm : gs.Perm fs) : r.registerAll gs = .ok r' := by
  obtain rfl := eq_after_of_registerAll h
  have admits := registerAll_eq_ok_iff.1 h
  rw [registerAll_eq_ok_iff.2 (admits.perm perm)]
  refine congrArg _ (eq_of_find?_eq fun name => ?_)
  rw [find?_after, find?_after]
  refine congrArg _ (find?_perm perm fun f mem g mem' hf hg => ?_)
  exact admits.eq_of_name_eq labelled mem mem'
    ((of_decide_eq_true hf).1.trans (of_decide_eq_true hg).1.symm)

/-- Functions are registered one after another, and some of them are refused.  Whatever was registered
so far, the next function is registered just when its name is proper, and new or that of a function
like it; else the reason is its name, or else its signature, or else its implementation.  Nothing but a
new function changes the registry.  What is found in the end under a name is what was there at the
start, or else the first function with that name; the names are in strictly ascending order, and they
are those at the start and the proper names that came.  If none of the functions is refused, then none
is in any other order either, and the registry is the same in the end. -/
theorem first_registration_wins (start : Registry σ) (fs : List (Function σ)) :
    let r := start.after fs
    (∀ f, (∃ r', r.register f = .ok r') ↔
      Function.ProperName f.name ∧
        (f.name ∉ r.names ∨ ∃ g, r.find? f.name = some g ∧ g.Alike f)) ∧
    (∀ f e, r.register f = .error e ↔
      (¬ Function.ProperName f.name ∧ e = .invalidName f.name) ∨
      Function.ProperName f.name ∧ ∃ g, r.find? f.name = some g ∧
        (g.signature ≠ f.signature ∧ e = .incompatible f.name g.signature f.signature ∨
          g.signature = f.signature ∧ g.implementation.label ≠ f.implementation.label ∧
            e = .duplicate f.name)) ∧
    (∀ f, (¬ ∃ r', r.register f = .ok r') ∨ f.name ∈ r.names → start.after (fs ++ [f]) = r) ∧
    (∀ name, r.find? name =
      (start.find? name).or (fs.find? fun f => f.name = name ∧ Function.ProperName name)) ∧
    (r.names.Pairwise (· < ·) ∧ r.names.Nodup ∧ r.names.length = r.size ∧
      ∀ name, name ∈ r.names ↔
        name ∈ start.names ∨ ∃ f ∈ fs, f.name = name ∧ Function.ProperName name) ∧
    ∀ gs last, Labelled fs → start.registerAll fs = .ok last → gs.Perm fs →
      start.registerAll gs = .ok last := by
  intro r
  refine ⟨fun f => ?_, fun f e => register_eq_error_iff, fun f unchanged => ?_, find?_after start fs,
    ⟨List.pairwise_map.2 r.ascending, r.nodup_names, List.length_map _, fun name => mem_names_after⟩,
    fun gs last => registerAll_perm⟩
  · rw [exists_register_eq_ok_iff, ← find?_eq_none_iff]
    cases r.find? f.name <;> simp
  · rw [after_append]
    rcases unchanged with refused | old
    · exact after_of_refused refused
    · exact after_of_old (mem_names_iff.1 old)

theorem first_registration_wins_of_conflict :
    let signature : Signature := ⟨[.any], .number⟩
    let named (label : String) : Implementation Unit := ⟨label, Function.arrayLength⟩
    let size : Function Unit := ⟨"my.size", signature, named "size"⟩
    let abs : Function Unit := ⟨"abs", ⟨[.number], .number⟩, named "abs"⟩
    let other : Function Unit := ⟨"my.size", signature, named "other"⟩
    let r := Registry.default.after [size, abs, size]
    ((¬ ∃ r', r.register other = .ok r') ∧ Labelled [size, abs, size] ∧
      Registry.default.registerAll [size, abs, size] = .ok r ∧
      [abs, size, size].Perm [size, abs, size]) ∧
    r.register other = .error (.duplicate "my.size") ∧
    Registry.default.after ([size, abs, size] ++ [other]) = r ∧
    Registry.default.registerAll [abs, size, size] = .ok r := by
  intro signature named size abs other r
  have proper : ∀ f ∈ [size, abs, size], Function.ProperName f.name := by decide +kernel
  obtain ⟨-, reason, unchanged, found, -, order⟩ :=
    first_registration_wins Registry.default [size, abs, size]
  have first : r.find? "my.size" = some size := by
    rw [found]
    rfl
  have refused : r.register other = .error (.duplicate "my.size") :=
    (reason other _).2
      (.inr ⟨proper size (by simp), size, first, .inr ⟨rfl, by decide, rfl⟩⟩)
  have alone : ¬ ∃ r', r.register other = .ok r' := by
    rintro ⟨r', accepted⟩
    rw [refused] at accepted
    cases accepted
  have same : ∀ f ∈ [size, abs, size], ∀ g ∈ [size, abs, size],
      f.name = g.name ∨ f.implementation.label = g.implementation.label → f = g := by
    intro f mem g mem' same
    simp only [List.mem_cons, List.not_mem_nil, or_false] at mem mem'
    rcases mem with rfl | rfl | rfl <;> rcases mem' with rfl | rfl | rfl <;> first
      | rfl
      | exact absurd same (by decide)
  have admits : Registry.default.Admits [size, abs, size] := by
    refine ⟨proper, fun f mem g here => ?_, fun f mem g mem' name => ?_⟩
    · simp only [List.mem_cons, List.not_mem_nil, or_false] at mem
      rcases mem with rfl | rfl | rfl
      · cases here
      · obtain rfl := Option.some.inj here
        exact ⟨rfl, rfl⟩
      · cases here
    · rw [same f mem g mem' (.inl name)]
      exact .refl g
  have labelled : Labelled [size, abs, size] := fun f mem g mem' label => by
    rw [same f mem g mem' (.inr label)]
  have all := registerAll_eq_ok_iff.2 admits
  have perm : [abs, size, size].Perm [size, abs, size] := .swap _ _ _
  exact ⟨⟨alone, labelled, all, perm⟩, refused, unchanged other (.inl alone),
    order _ _ labelled all perm⟩

end Registry

end Verdict
