import WakeSchedule.Proofs.Text.Trim

namespace WakeSchedule

structure IsWord (text : List Char) : Prop where
  nonempty : text ≠ []
  solid : ∀ c ∈ text, isBlank c = false

theorem isWord_iff {text : List Char} :
    (!text.isEmpty && text.all (!isBlank ·)) = true ↔ IsWord text := by
  simp only [Bool.and_eq_true, Bool.not_eq_true', List.isEmpty_eq_false_iff, List.all_eq_true]
  exact ⟨fun word => ⟨word.1, word.2⟩, fun word => ⟨word.nonempty, word.solid⟩⟩

instance (text : List Char) : Decidable (IsWord text) := decidable_of_iff _ isWord_iff

/-- The words are what a text is made of besides blanks. A word ends with the text or at a blank. -/
inductive Spells : List (List Char) → List Char → Prop
  | nil : Spells [] []
  | blank {words : List (List Char)} {text : List Char} (c : Char) (blank : isBlank c = true)
      (later : Spells words text) : Spells words (c :: text)
  | word {words : List (List Char)} {word text : List Char} (isWord : IsWord word)
      (ends : ∀ c ∈ text.head?, isBlank c = true) (later : Spells words text) :
      Spells (word :: words) (word ++ text)

section Pieces

variable {separates : Char → Bool}

theorem piecesBy_ne_nil (text : List Char) : piecesBy separates text ≠ [] := by
  cases text with
  | nil => exact List.cons_ne_nil _ _
  | cons c rest =>
      rw [piecesBy]
      split
      · exact List.cons_ne_nil _ _
      · split <;> exact List.cons_ne_nil _ _

theorem piecesBy_append {c : Char} (separator : separates c = true) (front back : List Char) :
    piecesBy separates (front ++ c :: back) =
      piecesBy separates front ++ piecesBy separates back := by
  induction front with
  | nil => simp only [List.nil_append, piecesBy, separator, if_true, List.singleton_append]
  | cons d rest ih =>
      rw [List.cons_append, piecesBy, piecesBy, ih]
      by_cases separated : separates d = true
      · rw [if_pos separated, if_pos separated, List.cons_append]
      · rw [if_neg separated, if_neg separated]
        cases pieces : piecesBy separates rest with
        | nil => exact absurd pieces (piecesBy_ne_nil rest)
        | cons piece pieces => rfl

theorem piecesBy_of_none {text : List Char} (none : ∀ c ∈ text, separates c = false) :
    piecesBy separates text = [text] := by
  induction text with
  | nil => rfl
  | cons c rest ih =>
      rw [List.forall_mem_cons] at none
      rw [piecesBy, if_neg (by simp [none.1]), ih none.2]

end Pieces

theorem wordsOf_append {c : Char} (blank : isBlank c = true) (front back : List Char) :
    wordsOf (front ++ c :: back) = wordsOf front ++ wordsOf back := by
  rw [wordsOf, piecesBy_append blank, List.filter_append]
  rfl

theorem wordsOf_cons {c : Char} (blank : isBlank c = true) (text : List Char) :
    wordsOf (c :: text) = wordsOf text :=
  wordsOf_append blank [] text

theorem wordsOf_of_isWord {word : List Char} (isWord : IsWord word) : wordsOf word = [word] := by
  rw [wordsOf, piecesBy_of_none isWord.solid]
  simp [isWord.nonempty]

theorem IsWord.single {c : Char} (solid : isBlank c = false) : IsWord [c] :=
  ⟨List.cons_ne_nil _ _, fun _ member => List.mem_singleton.mp member ▸ solid⟩

theorem IsWord.cons {c : Char} {word : List Char} (solid : isBlank c = false)
    (isWord : IsWord word) : IsWord (c :: word) :=
  ⟨List.cons_ne_nil _ _, List.forall_mem_cons.mpr ⟨solid, isWord.solid⟩⟩

namespace Spells

theorem isWord {words : List (List Char)} {text : List Char} (spells : Spells words text) :
    ∀ word ∈ words, IsWord word := by
  induction spells with
  | nil => exact nofun
  | blank c blank later ih => exact ih
  | word isWord ends later ih => exact List.forall_mem_cons.mpr ⟨isWord, ih⟩

theorem wordsOf_eq {words : List (List Char)} {text : List Char} (spells : Spells words text) :
    wordsOf text = words := by
  induction spells with
  | nil => rfl
  | blank c blank later ih => rw [wordsOf_cons blank, ih]
  | @word words word text isWord ends later ih =>
      cases text with
      | nil => rw [List.append_nil, wordsOf_of_isWord isWord, ← ih]; rfl
      | cons c rest =>
          have blank := ends c rfl
          rw [wordsOf_append blank, wordsOf_of_isWord isWord, ← ih, wordsOf_cons blank]
          rfl

theorem exists_words (text : List Char) : ∃ words, Spells words text := by
  induction text with
  | nil => exact ⟨[], .nil⟩
  | cons c rest ih =>
      obtain ⟨words, spells⟩ := ih
      cases solid : isBlank c with
      | true => exact ⟨words, .blank c solid spells⟩
      | false =>
          have alone (ends : ∀ d ∈ rest.head?, isBlank d = true) : Spells ([c] :: words) (c :: rest) :=
            .word (.single solid) ends spells
          cases spells with
          | nil => exact ⟨_, alone nofun⟩
          | blank d blank later => exact ⟨_, alone fun _ first => Option.some.inj first ▸ blank⟩
          | word isWord ends later => exact ⟨_, .word (.cons solid isWord) ends later⟩

theorem intercalate {words : List (List Char)} (areWords : ∀ word ∈ words, IsWord word) :
    Spells words ([' '].intercalate words) := by
  induction words with
  | nil => exact .nil
  | cons word rest ih =>
      rw [List.forall_mem_cons] at areWords
      cases rest with
      | nil =>
          have ends : ∀ c ∈ ([] : List Char).head?, isBlank c = true := nofun
          have alone := Spells.word areWords.1 ends .nil
          rw [List.append_nil] at alone
          rwa [List.intercalate_singleton]
      | cons next rest =>
          rw [List.intercalate_cons_cons, List.append_assoc]
          have between : isBlank ' ' = true := by decide
          exact .word areWords.1 (fun _ first => Option.some.inj first ▸ between)
            (.blank ' ' between (ih areWords.2))

end Spells

theorem wordsOf_eq_iff {text : List Char} {words : List (List Char)} :
    wordsOf text = words ↔ Spells words text := by
  constructor
  · rintro rfl
    obtain ⟨words, spells⟩ := Spells.exists_words text
    rwa [spells.wordsOf_eq]
  · exact Spells.wordsOf_eq

theorem map_toList_words (text : String) : (words text).map String.toList = wordsOf text.toList := by
  simp [words, Function.comp_def]

theorem words_eq_iff {text : String} {given : List String} :
    words text = given ↔ Spells (given.map String.toList) text.toList := by
  rw [← wordsOf_eq_iff, ← map_toList_words]
  exact (List.map_inj_right fun _ _ => String.toList_inj.mp).symm

theorem isWord_of_mem_words {text word : String} (member : word ∈ words text) :
    IsWord word.toList :=
  (words_eq_iff.mp rfl).isWord _ (List.mem_map_of_mem member)

theorem words_intercalate {given : List String} (areWords : ∀ word ∈ given, IsWord word.toList) :
    words (" ".intercalate given) = given := by
  rw [words_eq_iff, String.toList_intercalate]
  exact .intercalate (List.forall_mem_map.mpr areWords)

end WakeSchedule
