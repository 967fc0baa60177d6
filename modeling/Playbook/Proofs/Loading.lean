import Mathlib.Data.List.Forall2
import Playbook.Proofs.Document.Passage
import Playbook.Store

/-!
# Playbook.Proofs.Loading

Loading several files against reading each of them on its own. Loading goes through the paths
in order, gives every file the next identifier and stops at the first file that cannot be had.
`Loads` and `Fails` say what a single file comes to at its position; they never mention the
files before it. The outcome of loading is then told from them: all features if every file
loads, and otherwise the error of the first file that fails, which no later file can change.
-/

namespace Playbook.Load

variable {files files' : FileSource} {language path : Text} {firstId offset : Nat}
  {paths : List Text} {f : Feature} {fs : List Feature} {e : ReadError}

/-! ### One file -/

/-- The feature of a file that is read on its own, with an identifier of its own. -/
def alone (files : FileSource) (language : Text) (id : Nat) (path : Text) :
    Except ReadError Feature :=
  match Reader.new () path id language with
  | .error e => .error e
  | .ok r =>
    match text files path with
    | .error e => .error e
    | .ok source => r.read source

/-- The file at a position gives a feature: an identifier is left for it, and it is read. -/
def Loads (files : FileSource) (language : Text) (firstId offset : Nat) (path : Text)
    (f : Feature) : Prop :=
  firstId + offset ≤ Text.maxCount ∧ alone files language (firstId + offset) path = .ok f

/-- The file at a position fails: no identifier is left for it, or else it cannot be read. -/
def Fails (files : FileSource) (language : Text) (firstId offset : Nat) (path : Text)
    (e : ReadError) : Prop :=
  (Text.maxCount < firstId + offset ∧ e = .noIdLeft path firstId offset) ∨
    (firstId + offset ≤ Text.maxCount ∧ alone files language (firstId + offset) path = .error e)

theorem featureAt_of_lt (h : Text.maxCount < firstId + offset) :
    featureAt files language firstId offset path = .error (.noIdLeft path firstId offset) := by
  rw [featureAt, readerAt, if_pos h]

theorem featureAt_of_le (h : firstId + offset ≤ Text.maxCount) :
    featureAt files language firstId offset path =
      alone files language (firstId + offset) path := by
  rw [featureAt, readerAt, if_neg (Nat.not_lt.mpr h)]
  rfl

theorem featureAt_eq_ok_iff : featureAt files language firstId offset path = .ok f ↔
    Loads files language firstId offset path f := by
  unfold Loads
  by_cases h : firstId + offset ≤ Text.maxCount
  · simp [featureAt_of_le h, h]
  · simp [featureAt_of_lt (Nat.not_le.mp h), h]

theorem featureAt_eq_error_iff : featureAt files language firstId offset path = .error e ↔
    Fails files language firstId offset path e := by
  unfold Fails
  by_cases h : firstId + offset ≤ Text.maxCount
  · simp [featureAt_of_le h, h, Nat.not_lt.mpr h]
  · simp [featureAt_of_lt (Nat.not_le.mp h), h, Nat.not_le.mp h, eq_comm]

/-- Only the file itself is looked at. -/
theorem Fails.congr (h : Fails files language firstId offset path e)
    (hsame : files' path = files path) : Fails files' language firstId offset path e := by
  rw [Fails, alone, text, hsame]
  exact h

theorem Loads.congr (h : Loads files language firstId offset path f)
    (hsame : files' path = files path) : Loads files' language firstId offset path f := by
  rw [Loads, alone, text, hsame]
  exact h

/-- Without a vocabulary for the language no file is looked at. -/
theorem alone_of_unknown (h : Vocabulary.find? language = none) (files : FileSource) (id : Nat)
    (path : Text) : alone files language id path = .error (.unknownLanguage language) := by
  rw [alone, Reader.new, Reader.withSource, h]

theorem fails_of_unknown (h : Vocabulary.find? language = none) (files : FileSource)
    (path : Text) (hid : firstId + offset ≤ Text.maxCount) :
    Fails files language firstId offset path (.unknownLanguage language) :=
  .inr ⟨hid, alone_of_unknown h files _ path⟩

theorem Loads.isSome_find? (h : Loads files language firstId offset path f) :
    (Vocabulary.find? language).isSome := by
  cases hv : Vocabulary.find? language with
  | some v => rfl
  | none =>
      have hok := h.2
      rw [alone_of_unknown hv] at hok
      cases hok

/-! ### All files -/

theorem featuresFrom_cons_eq_ok_iff {rest : List Text} :
    featuresFrom files language firstId offset (path :: rest) = .ok fs ↔
      ∃ f gs, Loads files language firstId offset path f ∧
        featuresFrom files language firstId (offset + 1) rest = .ok gs ∧ fs = f :: gs := by
  rw [featuresFrom]
  cases hfirst : featureAt files language firstId offset path with
  | error e => simp [← featureAt_eq_ok_iff, hfirst]
  | ok f =>
      cases featuresFrom files language firstId (offset + 1) rest <;>
        simp [← featureAt_eq_ok_iff, hfirst, eq_comm]

theorem featuresFrom_cons_eq_error_iff {rest : List Text} :
    featuresFrom files language firstId offset (path :: rest) = .error e ↔
      Fails files language firstId offset path e ∨
        ∃ f, Loads files language firstId offset path f ∧
          featuresFrom files language firstId (offset + 1) rest = .error e := by
  rw [featuresFrom]
  cases hfirst : featureAt files language firstId offset path with
  | error e' => simp [← featureAt_eq_ok_iff, ← featureAt_eq_error_iff, hfirst]
  | ok f =>
      cases featuresFrom files language firstId (offset + 1) rest <;>
        simp [← featureAt_eq_ok_iff, ← featureAt_eq_error_iff, hfirst]

/-- Loading gives features exactly if every file loads at its position. -/
theorem featuresFrom_eq_ok_iff : featuresFrom files language firstId offset paths = .ok fs ↔
    List.Forall₂ (fun p f => Loads files language firstId p.2 p.1 f) (paths.zipIdx offset) fs := by
  induction paths generalizing offset fs with
  | nil => simp [featuresFrom, eq_comm]
  | cons path rest ih =>
      rw [featuresFrom_cons_eq_ok_iff, List.zipIdx_cons, List.forall₂_cons_left_iff]
      simp only [ih, exists_and_left]

/-- Loading fails exactly if some file fails below files that load, and then with its error. -/
theorem featuresFrom_eq_error_iff : featuresFrom files language firstId offset paths = .error e ↔
    ∃ before path after, paths = before ++ path :: after ∧
      (∀ p ∈ before.zipIdx offset, ∃ f, Loads files language firstId p.2 p.1 f) ∧
      Fails files language firstId (offset + before.length) path e := by
  induction paths generalizing offset with
  | nil => simp [featuresFrom]
  | cons first rest ih =>
      rw [featuresFrom_cons_eq_error_iff, ih]
      constructor
      · rintro (hfails | ⟨f, hloads, before, path, after, rfl, hbefore, hfails⟩)
        · exact ⟨[], first, rest, rfl, by simp, hfails⟩
        · refine ⟨first :: before, path, after, rfl, ?_, ?_⟩
          · rw [List.zipIdx_cons, List.forall_mem_cons]
            exact ⟨⟨f, hloads⟩, hbefore⟩
          · rwa [List.length_cons, Nat.add_comm before.length, ← Nat.add_assoc]
      · rintro ⟨before, path, after, hpaths, hbefore, hfails⟩
        cases before with
        | nil =>
            cases hpaths
            exact .inl hfails
        | cons _ before =>
            cases hpaths
            rw [List.zipIdx_cons, List.forall_mem_cons] at hbefore
            obtain ⟨⟨f, hloads⟩, hbefore⟩ := hbefore
            rw [List.length_cons, Nat.add_comm before.length, ← Nat.add_assoc] at hfails
            exact .inr ⟨f, hloads, before, path, after, rfl, hbefore, hfails⟩

/-- Without a vocabulary for the language nothing is loaded, and no file is looked at. -/
theorem features_of_unknown (h : Vocabulary.find? language = none) (hne : paths ≠ [])
    (hfirst : firstId ≤ Text.maxCount) (files : FileSource) :
    features files paths firstId language = .error (.unknownLanguage language) := by
  obtain ⟨path, rest, rfl⟩ := List.exists_cons_of_ne_nil hne
  exact featuresFrom_cons_eq_error_iff.mpr (.inl (fails_of_unknown h files path hfirst))

/-- **Loading.** Let a first identifier be given that is no larger than identifiers may be, and
some paths.

* All features are had exactly if there is a vocabulary for the language, an identifier is left
  for every file and every file is read on its own; they are then those features, in order.
* Otherwise the error is that the language is unknown, which is found before any file is looked
  at, or it is the error of the first file that fails: that no identifier is left for it, or else
  the error of that file alone.
* The files below the one that fails have no part in this. -/
theorem features_by_file (hne : paths ≠ []) (hfirst : firstId ≤ Text.maxCount) :
    (∀ fs, features files paths firstId language = .ok fs ↔
      (Vocabulary.find? language).isSome ∧
        List.Forall₂ (fun p f => firstId + p.2 ≤ Text.maxCount ∧
          alone files language (firstId + p.2) p.1 = .ok f) paths.zipIdx fs) ∧
    (∀ e, features files paths firstId language = .error e ↔
      (Vocabulary.find? language = none ∧ e = .unknownLanguage language) ∨
        ((Vocabulary.find? language).isSome ∧
          ∃ before path after, paths = before ++ path :: after ∧
            (∀ p ∈ before.zipIdx, ∃ f, Loads files language firstId p.2 p.1 f) ∧
            Fails files language firstId before.length path e)) ∧
    (Vocabulary.find? language = none → ∀ files' : FileSource,
      features files' paths firstId language = .error (.unknownLanguage language)) ∧
    ∀ before path after e, paths = before ++ path :: after →
      (∀ p ∈ before.zipIdx, ∃ f, Loads files language firstId p.2 p.1 f) →
      Fails files language firstId before.length path e →
        ∀ files' : FileSource, (∀ p ∈ before ++ [path], files' p = files p) →
          features files' paths firstId language = .error e := by
  refine ⟨fun fs => ?_, fun e => ?_, fun h => features_of_unknown h hne hfirst, ?_⟩
  · rw [features, featuresFrom_eq_ok_iff]
    refine ⟨fun hall => ⟨?_, hall⟩, fun hall => hall.2⟩
    obtain ⟨path, rest, rfl⟩ := List.exists_cons_of_ne_nil hne
    rw [List.zipIdx_cons, List.forall₂_cons_left_iff] at hall
    obtain ⟨f, gs, hloads, -, -⟩ := hall
    exact hloads.isSome_find?
  · cases hv : Vocabulary.find? language with
    | none =>
        rw [features_of_unknown hv hne hfirst]
        simp [eq_comm]
    | some v =>
        rw [features, featuresFrom_eq_error_iff]
        simp only [Nat.zero_add, Option.isSome_some, true_and, reduceCtorEq, false_and, false_or]
  · rintro before path after e rfl hbefore hfails files' hsame
    refine featuresFrom_eq_error_iff.mpr ⟨before, path, after, rfl, fun p hp => ?_, ?_⟩
    · obtain ⟨f, hloads⟩ := hbefore p hp
      have hmem : p.1 ∈ before := List.fst_mem_of_mem_zipIdx hp
      exact ⟨f, hloads.congr (hsame p.1 (List.mem_append_left _ hmem))⟩
    · rw [Nat.zero_add]
      exact hfails.congr (hsame path (by simp))

/-! ### Readings

Loading with a log comes to the same, as long as the room is not bounded. -/

theorem ending_readingAt (files : FileSource) (language : Text) (firstId offset : Nat)
    (path : Text) : (readingAt none files language firstId offset path).ending =
      .ofExcept (featureAt files language firstId offset path) := by
  rw [readingAt, featureAt]
  cases readerAt language firstId offset path with
  | error e => rfl
  | ok r =>
      cases text files path with
      | error e => rfl
      | ok source => exact Reader.ending_reading_none r source

theorem ending_readingFrom (files : FileSource) (language : Text) (firstId offset : Nat)
    (paths : List Text) : (readingFrom none files language firstId offset paths).ending =
      .ofExcept (featuresFrom files language firstId offset paths) := by
  induction paths generalizing offset with
  | nil => rfl
  | cons path rest ih =>
      rw [readingFrom, featuresFrom, ending_readingAt]
      cases featureAt files language firstId offset path with
      | error e => rfl
      | ok f =>
          show (readingFrom none files language firstId (offset + 1) rest).ending.map _ = _
          rw [ih]
          cases featuresFrom files language firstId (offset + 1) rest <;> rfl

/-- With unbounded room, reading files ends in the features that loading them gives, or in the
same error. -/
theorem ending_reading (files : FileSource) (paths : List Text) (firstId : Nat)
    (language : Text) : (reading none files paths firstId language).ending =
      .ofExcept (features files paths firstId language) :=
  ending_readingFrom files language firstId 0 paths

/-- Two files that can be read, and one that is no feature. -/
def fewFiles : FileSource := fun path =>
  if path = ['a'] then .ok "Feature: a".toList
  else if path = ['b'] then .ok "Feature: b\nScenario: s\nGiven x".toList
  else if path = ['d'] then .ok "Scenario: s".toList
  else .error .notFound

theorem features_by_file_few :
    [['b'], ['a'], ['c'], ['d']] ≠ [] ∧ 7 ≤ Text.maxCount ∧
      ∃ b a, Loads fewFiles ['e', 'n'] 7 0 ['b'] b ∧ Loads fewFiles ['e', 'n'] 7 1 ['a'] a ∧
        features fewFiles [['b'], ['a']] 7 ['e', 'n'] = .ok [b, a] ∧
        ∀ files : FileSource, files ['b'] = fewFiles ['b'] → files ['a'] = fewFiles ['a'] →
          files ['c'] = .error .notFound →
            features files [['b'], ['a'], ['c'], ['d']] 7 ['e', 'n'] =
              .error (.missingFile ['c']) := by
  have hexists : ∀ {x : Except ReadError Feature}, x.toOption.isSome → ∃ f, x = .ok f := by
    intro x hx
    cases x with
    | error e => cases hx
    | ok f => exact ⟨f, rfl⟩
  obtain ⟨b, hb⟩ := hexists (x := alone fewFiles ['e', 'n'] 7 ['b']) (by decide +kernel)
  obtain ⟨a, ha⟩ := hexists (x := alone fewFiles ['e', 'n'] 8 ['a']) (by decide +kernel)
  have hfirst : 7 ≤ Text.maxCount := by decide
  have hloadsB : Loads fewFiles ['e', 'n'] 7 0 ['b'] b := ⟨by decide, hb⟩
  have hloadsA : Loads fewFiles ['e', 'n'] 7 1 ['a'] a := ⟨by decide, ha⟩
  refine ⟨List.cons_ne_nil _ _, hfirst, b, a, hloadsB, hloadsA, ?_,
    fun files hsameB hsameA hc => ?_⟩
  · have htwo := @features_by_file fewFiles ['e', 'n'] 7 _ (List.cons_ne_nil ['b'] [['a']]) hfirst
    exact (htwo.1 [b, a]).mpr ⟨by decide +kernel, .cons hloadsB (.cons hloadsA .nil)⟩
  · have hfour := @features_by_file fewFiles ['e', 'n'] 7 _
      (List.cons_ne_nil ['b'] [['a'], ['c'], ['d']]) hfirst
    refine hfour.2.2.2 [['b'], ['a']] ['c'] [['d']] _ rfl ?_ ?_ files ?_
    · exact List.forall_mem_cons.mpr ⟨⟨b, hloadsB⟩, List.forall_mem_singleton.mpr ⟨a, hloadsA⟩⟩
    · exact .inr ⟨by decide, by decide +kernel⟩
    · have hmissing : files ['c'] = fewFiles ['c'] := hc
      simp [hsameB, hsameA, hmissing]

end Playbook.Load
