import Playbook.Json
import Playbook.Proofs.Text

/-!
# Playbook.Proofs.Json

JSON texts are unambiguous: in either layout the text of a value tells the value, and where the
text ends, whatever is written behind it.

A string ends at the first quote that is not escaped, and a number at the first character that
is no digit. Arrays and objects end at their brackets, so of what is behind a value only this is
asked, that it does not go on with a digit (`Clear`). The two layouts differ in their white space
and in nothing else. One `level` of a layout, with the text of the values inside left open, is
read back once for both; the induction on values then closes the circle.
-/

namespace Playbook.Json

variable {α : Type}

/-- The text does not go on with a digit. -/
def Clear (rest : Text) : Prop := ∀ c, rest.head? = some c → c.isDigit = false

/-- What is written for `a` tells it from anything else, and where it ends. -/
def SelfDelimiting (write : α → Text) (a : α) : Prop :=
  ∀ b rest rest', Clear rest → Clear rest' → write a ++ rest = write b ++ rest' →
    a = b ∧ rest = rest'

/-! ### Strings -/

/-- The value of a hexadecimal digit in lower case. -/
def hexValue (c : Char) : Nat :=
  if c.isDigit then c.toNat - '0'.toNat else c.toNat - 'a'.toNat + 10

/-- The character that is written behind a backslash, and the rest of the text. -/
def unescaped? : Text → Option (Char × Text)
  | 'u' :: '0' :: '0' :: a :: b :: rest => some (Char.ofNat (16 * hexValue a + hexValue b), rest)
  | 'n' :: rest => some ('\n', rest)
  | 'r' :: rest => some ('\r', rest)
  | 't' :: rest => some ('\t', rest)
  | 'b' :: rest => some (Char.ofNat 8, rest)
  | 'f' :: rest => some (Char.ofNat 12, rest)
  | c :: rest => some (c, rest)
  | [] => none

/-- The first character of what is inside a JSON string, and the rest; none at its end. -/
def char? : Text → Option (Char × Text)
  | [] => none
  | c :: rest =>
    if c = '"' then none else if c = '\\' then unescaped? rest else some (c, rest)

theorem hexValue_digitChar {n : Nat} (h : n < 16) : hexValue (Nat.digitChar n) = n := by
  have hall : ∀ n : Fin 16, hexValue (Nat.digitChar n) = n := by decide
  exact hall ⟨n, h⟩

/-- Escaped characters are read back. -/
theorem char?_escapeChar (c : Char) (rest : Text) :
    char? (escapeChar c ++ rest) = some (c, rest) := by
  unfold escapeChar
  split_ifs with hquote hbackslash hnewline hreturn htab hback hfeed hlow
  · rw [hquote]; rfl
  · rw [hbackslash]; rfl
  · rw [hnewline]; rfl
  · rw [hreturn]; rfl
  · rw [htab]; rfl
  · rw [← Char.ofNat_toNat c, hback]; rfl
  · rw [← Char.ofNat_toNat c, hfeed]; rfl
  · have hread : char? (['\\', 'u', '0', '0', Nat.digitChar (c.toNat / 16),
        Nat.digitChar (c.toNat % 16)] ++ rest) =
        some (Char.ofNat (16 * hexValue (Nat.digitChar (c.toNat / 16)) +
          hexValue (Nat.digitChar (c.toNat % 16))), rest) := rfl
    rw [hread, hexValue_digitChar (by omega), hexValue_digitChar (by omega), Nat.div_add_mod,
      Char.ofNat_toNat]
  · simp [char?, hquote, hbackslash]

theorem quote_append (text rest : Text) :
    quote text ++ rest = '"' :: (text.flatMap escapeChar ++ '"' :: rest) := by
  simp [quote]

theorem quote_selfDelimiting (text : Text) : SelfDelimiting quote text := by
  intro text' rest rest' _ _ h
  rw [quote_append, quote_append, List.cons.injEq] at h
  obtain ⟨-, h⟩ := h
  induction text generalizing text' with
  | nil =>
      cases text' with
      | nil => exact ⟨rfl, (List.cons.inj h).2⟩
      | cons c' text' =>
          have hread := congrArg char? h
          rw [List.flatMap_cons, List.append_assoc, char?_escapeChar] at hread
          cases hread
  | cons c text ih =>
      rw [List.flatMap_cons, List.append_assoc] at h
      have hread := congrArg char? h
      rw [char?_escapeChar] at hread
      cases text' with
      | nil => cases hread
      | cons c' text' =>
          rw [List.flatMap_cons, List.append_assoc, char?_escapeChar, Option.some.injEq,
            Prod.mk.injEq] at hread
          obtain ⟨rfl, htexts⟩ := hread
          obtain ⟨rfl, hrest⟩ := ih text' htexts
          exact ⟨rfl, hrest⟩

/-! ### Numbers -/

theorem decimal_selfDelimiting (n : Nat) : SelfDelimiting Text.decimal n := by
  intro n' rest rest' hrest hrest' h
  have hdigits := congrArg (List.takeWhile Char.isDigit) h
  rw [Text.takeWhile_append (fun _ => Text.isDigit_of_mem_decimal) hrest,
    Text.takeWhile_append (fun _ => Text.isDigit_of_mem_decimal) hrest'] at hdigits
  rw [hdigits] at h
  exact ⟨Text.decimal_injective hdigits, List.append_cancel_left h⟩

/-! ### One level of a layout -/

/-- The white space on one level of a layout. -/
structure Spacing where
  /-- In front of every item of an array and every member of an object. -/
  item : Text
  /-- In front of the closing bracket, if there are any. -/
  closing : Text
  /-- Behind the colon of a member. -/
  colon : Text
  item_blank : Text.AllBlank item
  closing_blank : Text.AllBlank closing

namespace Spacing

/-- Items behind the first, with a comma in front of each. -/
def more (s : Spacing) (write : α → Text) (xs : List α) : Text :=
  xs.flatMap fun x => ',' :: s.item ++ write x

/-- Items between brackets. -/
def list (s : Spacing) (opening closing : Char) (write : α → Text) : List α → Text
  | [] => [opening, closing]
  | x :: rest => opening :: s.item ++ write x ++ s.more write rest ++ s.closing ++ [closing]

def member (s : Spacing) (write : Json → Text) (entry : Text × Json) : Text :=
  quote entry.1 ++ ':' :: s.colon ++ write entry.2

/-- A value, given how the values inside it are written. -/
def level (s : Spacing) (write : Json → Text) : Json → Text
  | null => "null".toList
  | number n => Text.decimal n
  | string text => quote text
  | array items => s.list '[' ']' write items
  | object members => s.list '\x7b' '\x7d' (s.member write) members

end Spacing

/-- No white space at all. -/
def narrow : Spacing := ⟨[], [], [], Text.allBlank_nil, Text.allBlank_nil⟩

theorem newLine_blank (depth : Nat) : Text.AllBlank (newLine depth) := by
  intro c hc
  rcases List.mem_cons.mp hc with rfl | hc
  · rfl
  · rw [List.eq_of_mem_replicate hc]
    rfl

/-- Every item on a line of its own. -/
def wide (depth : Nat) : Spacing :=
  ⟨newLine (depth + 1), newLine depth, [' '], newLine_blank _, newLine_blank _⟩

theorem prettyItems_eq (depth : Nat) (items : List Json) :
    prettyItems (depth + 1) items = (wide depth).more (pretty (depth + 1)) items := by
  induction items with
  | nil => rfl
  | cons item rest ih => rw [prettyItems, ih]; rfl

theorem prettyMembers_eq (depth : Nat) (members : List (Text × Json)) :
    prettyMembers (depth + 1) members =
      (wide depth).more ((wide depth).member (pretty (depth + 1))) members := by
  induction members with
  | nil => rfl
  | cons entry rest ih =>
      rw [prettyMembers, ih]
      simp [Spacing.more, Spacing.member, wide]

/-- Each level of the pretty layout is wide. -/
theorem pretty_eq_level (depth : Nat) :
    pretty depth = (wide depth).level (pretty (depth + 1)) := by
  funext j
  cases j with
  | null | number n | string text => rw [pretty]; rfl
  | array items =>
      cases items with
      | nil => rw [pretty]; rfl
      | cons item rest => rw [pretty, prettyItems_eq]; rfl
  | object members =>
      cases members with
      | nil => rw [pretty]; rfl
      | cons entry rest =>
          rw [pretty, prettyMembers_eq]
          simp [Spacing.level, Spacing.list, Spacing.member, wide]

theorem compactItems_eq (item : Json) (rest : List Json) :
    compactItems (item :: rest) = compact item ++ narrow.more compact rest := by
  induction rest generalizing item with
  | nil => simp [compactItems, Spacing.more]
  | cons next rest ih =>
      rw [compactItems, ih]
      · rfl
      · exact List.cons_ne_nil next rest

theorem compactMembers_eq (entry : Text × Json) (rest : List (Text × Json)) :
    compactMembers (entry :: rest) =
      narrow.member compact entry ++ narrow.more (narrow.member compact) rest := by
  induction rest generalizing entry with
  | nil => simp [compactMembers, Spacing.more, Spacing.member, narrow]
  | cons next rest ih =>
      rw [compactMembers, ih]
      · simp [Spacing.more, Spacing.member, narrow]
      · exact List.cons_ne_nil next rest

/-- Every level of the compact layout is narrow. -/
theorem compact_eq_level : compact = narrow.level compact := by
  funext j
  cases j with
  | null | number n | string text => rw [compact]; rfl
  | array items =>
      cases items with
      | nil => rw [compact]; rfl
      | cons item rest =>
          rw [compact, compactItems_eq]
          simp [Spacing.level, Spacing.list, narrow]
  | object members =>
      cases members with
      | nil => rw [compact]; rfl
      | cons entry rest =>
          rw [compact, compactMembers_eq]
          simp [Spacing.level, Spacing.list, narrow]

/-! ### Reading one level back -/

/-- The text goes on neither with a digit nor with a comma, as it is behind the last item. -/
structure Ends (rest : Text) : Prop where
  clear : Clear rest
  noComma : rest.head? ≠ some ','

/-- The character can be a closing bracket. -/
structure Closes (closing : Char) : Prop where
  noDigit : closing.isDigit = false
  noComma : closing ≠ ','
  noBlank : Text.isBlank closing = false

section

variable {s : Spacing} {write : α → Text} {xs ys : List α} {opening closing : Char}
  {rest rest' : Text}

/-- Behind white space a text goes on with white space or with what comes first. -/
theorem head?_blank_append {blank : Text} {c d : Char} (h : Text.AllBlank blank)
    (hd : (blank ++ c :: rest).head? = some d) : d = c ∨ Text.isBlank d := by
  cases blank with
  | nil => exact .inl (Option.some.inj hd).symm
  | cons b blank =>
      obtain ⟨rfl⟩ := hd
      exact .inr (h _ List.mem_cons_self)

/-- Where a list is closed, it has no further item. -/
theorem ends_closing (h : Closes closing) (s : Spacing) (rest : Text) :
    Ends (s.closing ++ closing :: rest) := by
  constructor
  · intro c hc
    rcases head?_blank_append s.closing_blank hc with rfl | hblank
    · exact h.noDigit
    · rw [← Bool.not_eq_true]
      intro hdigit
      rw [Text.not_isBlank_of_isDigit hdigit] at hblank
      cases hblank
  · intro hc
    rcases head?_blank_append s.closing_blank hc with hcomma | hblank
    · exact h.noComma hcomma.symm
    · cases hblank

/-- Where a list is closed at once, it has no first item. -/
theorem closing_ne_item (h : Closes closing) (s : Spacing) {x : α}
    (hstart : ∃ c text, write x = c :: text ∧ c ≠ closing) (rest rest' : Text) :
    closing :: rest ≠ s.item ++ (write x ++ rest') := by
  intro heq
  obtain ⟨c, text, hwrite, hne⟩ := hstart
  rw [hwrite] at heq
  rcases head?_blank_append s.item_blank (congrArg List.head? heq).symm with hsame | hblank
  · exact hne hsame.symm
  · rw [h.noBlank] at hblank
    cases hblank

theorem clear_more (h : Clear rest) : Clear (s.more write xs ++ rest) := by
  cases xs with
  | nil => exact h
  | cons x xs =>
      intro c hc
      obtain ⟨rfl⟩ := hc
      rfl

/-- Items behind the first are told apart if each of them is, and if no comma comes behind
them. -/
theorem more_append_inj (hxs : ∀ x ∈ xs, SelfDelimiting write x) (hrest : Ends rest)
    (hrest' : Ends rest') (h : s.more write xs ++ rest = s.more write ys ++ rest') :
    xs = ys ∧ rest = rest' := by
  induction xs generalizing ys with
  | nil =>
      cases ys with
      | nil => exact ⟨rfl, h⟩
      | cons y ys => exact absurd (congrArg List.head? h) hrest.noComma
  | cons x xs ih =>
      cases ys with
      | nil => exact absurd (congrArg List.head? h).symm hrest'.noComma
      | cons y ys =>
          obtain ⟨hx, hxs⟩ := List.forall_mem_cons.mp hxs
          have hitems : ',' :: s.item ++ (write x ++ (s.more write xs ++ rest)) =
              ',' :: s.item ++ (write y ++ (s.more write ys ++ rest')) := by
            simpa [Spacing.more] using h
          obtain ⟨rfl, hmore⟩ := hx y _ _ (clear_more hrest.clear) (clear_more hrest'.clear)
            (List.append_cancel_left hitems)
          obtain ⟨rfl, htails⟩ := ih hxs hmore
          exact ⟨rfl, htails⟩

/-- Items between brackets are told apart if each of them is and none begins like the closing
bracket. -/
theorem list_selfDelimiting (hxs : ∀ x ∈ xs, SelfDelimiting write x)
    (hstart : ∀ x, ∃ c text, write x = c :: text ∧ c ≠ closing)
    (hclosing : Closes closing) : SelfDelimiting (s.list opening closing write) xs := by
  intro ys rest rest' _ _ h
  cases xs with
  | nil =>
      cases ys with
      | nil => exact ⟨rfl, List.append_cancel_left h⟩
      | cons y ys =>
          refine absurd (List.cons.inj h).2 ?_
          simpa [List.append_assoc] using closing_ne_item hclosing s (hstart y) rest _
  | cons x xs =>
      cases ys with
      | nil =>
          refine absurd (List.cons.inj h).2.symm ?_
          simpa [List.append_assoc] using closing_ne_item hclosing s (hstart x) rest' _
      | cons y ys =>
          obtain ⟨hx, hxs⟩ := List.forall_mem_cons.mp hxs
          have hitems : opening :: s.item ++
                (write x ++ (s.more write xs ++ (s.closing ++ closing :: rest))) =
              opening :: s.item ++
                (write y ++ (s.more write ys ++ (s.closing ++ closing :: rest'))) := by
            simpa [Spacing.list] using h
          have hends := ends_closing hclosing s
          obtain ⟨rfl, hmore⟩ := hx y _ _ (clear_more (hends rest).clear)
            (clear_more (hends rest').clear) (List.append_cancel_left hitems)
          obtain ⟨rfl, htails⟩ := more_append_inj hxs (hends rest) (hends rest') hmore
          exact ⟨rfl, (List.cons.inj (List.append_cancel_left htails)).2⟩

theorem member_selfDelimiting {write : Json → Text} {entry : Text × Json}
    (h : SelfDelimiting write entry.2) : SelfDelimiting (s.member write) entry := by
  intro entry' rest rest' hrest hrest' heq
  have hclear : ∀ tail, Clear (':' :: tail) := fun tail c hc => by
    obtain ⟨rfl⟩ := hc
    rfl
  have hparts : quote entry.1 ++ ':' :: (s.colon ++ (write entry.2 ++ rest)) =
      quote entry'.1 ++ ':' :: (s.colon ++ (write entry'.2 ++ rest')) := by
    simpa [Spacing.member] using heq
  obtain ⟨hkey, hvalues⟩ :=
    quote_selfDelimiting entry.1 entry'.1 _ _ (hclear _) (hclear _) hparts
  obtain ⟨hvalue, htails⟩ := h entry'.2 _ _ hrest hrest'
    (List.append_cancel_left (List.cons.inj hvalues).2)
  exact ⟨Prod.ext hkey hvalue, htails⟩

end

/-- The character that a value begins with, whatever is in it; numbers have none. -/
def mark : Json → Option Char
  | null => some 'n'
  | number _ => none
  | string _ => some '"'
  | array _ => some '['
  | object _ => some '\x7b'

/-- The values inside a value. -/
def children : Json → List Json
  | array items => items
  | object members => members.map (·.2)
  | _ => []

section

variable {s : Spacing} {write : Json → Text} {a b : Json} {rest rest' : Text}

/-- Digits aside, a value begins with its mark. -/
theorem level_eq_cons (s : Spacing) (write : Json → Text) (a : Json) :
    ∃ c text, s.level write a = c :: text ∧ (if c.isDigit then none else some c) = a.mark := by
  cases a with
  | null => exact ⟨'n', _, rfl, rfl⟩
  | number n =>
      have hne : Text.decimal n ≠ [] := Nat.toDigits_ne_nil
      obtain ⟨c, text, hdecimal⟩ := List.exists_cons_of_ne_nil hne
      have hdigit : c.isDigit := Text.isDigit_of_mem_decimal (hdecimal ▸ List.mem_cons_self)
      exact ⟨c, text, hdecimal, if_pos hdigit⟩
  | string text => exact ⟨'"', _, rfl, rfl⟩
  | array items => cases items <;> exact ⟨'[', _, rfl, rfl⟩
  | object members => cases members <;> exact ⟨'\x7b', _, rfl, rfl⟩

/-- No value begins with the bracket that closes an array. -/
theorem level_start (s : Spacing) (write : Json → Text) (a : Json) :
    ∃ c text, s.level write a = c :: text ∧ c ≠ ']' := by
  obtain ⟨c, text, hlevel, hmark⟩ := level_eq_cons s write a
  refine ⟨c, text, hlevel, fun hc => ?_⟩
  subst hc
  cases a <;> cases hmark

theorem mark_eq_of_level (h : s.level write a ++ rest = s.level write b ++ rest') :
    a.mark = b.mark := by
  obtain ⟨c, text, ha, hmark⟩ := level_eq_cons s write a
  obtain ⟨c', text', hb, hmark'⟩ := level_eq_cons s write b
  rw [ha, hb] at h
  rw [← hmark, ← hmark', (List.cons.inj h).1]

/-- **One level.** A value is told from others if the values inside it are. -/
theorem level_selfDelimiting (hchildren : ∀ child ∈ a.children, SelfDelimiting write child)
    (hstart : ∀ j, ∃ c text, write j = c :: text ∧ c ≠ ']') :
    SelfDelimiting (s.level write) a := by
  intro b rest rest' hrest hrest' h
  have hmark := mark_eq_of_level h
  cases a with
  | null =>
      cases b with
      | null => exact ⟨rfl, List.append_cancel_left h⟩
      | _ => cases hmark
  | number n =>
      cases b with
      | number m =>
          obtain ⟨rfl, htails⟩ := decimal_selfDelimiting n m rest rest' hrest hrest' h
          exact ⟨rfl, htails⟩
      | _ => cases hmark
  | string text =>
      cases b with
      | string text' =>
          obtain ⟨rfl, htails⟩ := quote_selfDelimiting text text' rest rest' hrest hrest' h
          exact ⟨rfl, htails⟩
      | _ => cases hmark
  | array items =>
      cases b with
      | array items' =>
          have hbracket : Closes ']' := ⟨rfl, by decide, rfl⟩
          obtain ⟨rfl, htails⟩ := list_selfDelimiting hchildren hstart hbracket items' rest rest'
            hrest hrest' h
          exact ⟨rfl, htails⟩
      | _ => cases hmark
  | object members =>
      cases b with
      | object members' =>
          have hmembers : ∀ entry ∈ members, SelfDelimiting (s.member write) entry :=
            fun entry hentry => member_selfDelimiting
              (hchildren entry.2 (List.mem_map_of_mem hentry))
          have hquote : ∀ entry, ∃ c text, s.member write entry = c :: text ∧ c ≠ '\x7d' :=
            fun entry => ⟨'"', _, rfl, by decide⟩
          have hbrace : Closes '\x7d' := ⟨rfl, by decide, rfl⟩
          obtain ⟨rfl, htails⟩ := list_selfDelimiting hmembers hquote hbrace members' rest rest'
            hrest hrest' h
          exact ⟨rfl, htails⟩
      | _ => cases hmark

end

/-! ### Both layouts -/

theorem sizeOf_lt_of_mem_children {a child : Json} (h : child ∈ a.children) :
    sizeOf child < sizeOf a := by
  cases a with
  | array items =>
      have hlt : sizeOf child < sizeOf items := List.sizeOf_lt_of_mem h
      simp only [array.sizeOf_spec]
      omega
  | object members =>
      obtain ⟨entry, hentry, rfl⟩ := List.mem_map.mp h
      have hlt := List.sizeOf_lt_of_mem hentry
      obtain ⟨key, value⟩ := entry
      simp only [Prod.mk.sizeOf_spec] at hlt
      simp only [object.sizeOf_spec]
      omega
  | _ => cases h

/-- Induction on values: what holds of a value if it holds of the values inside it. -/
@[elab_as_elim]
theorem childInduction {motive : Json → Prop}
    (value : ∀ a, (∀ child ∈ a.children, motive child) → motive a) (a : Json) : motive a :=
  value a fun child _ => childInduction value child
termination_by sizeOf a
decreasing_by exact sizeOf_lt_of_mem_children ‹_›

theorem pretty_selfDelimiting (a : Json) (depth : Nat) : SelfDelimiting (pretty depth) a := by
  induction a using childInduction generalizing depth with
  | value a ih =>
      have hstart : ∀ j, ∃ c text, pretty (depth + 1) j = c :: text ∧ c ≠ ']' := by
        rw [pretty_eq_level]
        exact level_start _ _
      rw [pretty_eq_level]
      exact level_selfDelimiting (fun child hchild => ih child hchild (depth + 1)) hstart

theorem compact_selfDelimiting (a : Json) : SelfDelimiting compact a := by
  induction a using childInduction with
  | value a ih =>
      have hstart : ∀ j, ∃ c text, compact j = c :: text ∧ c ≠ ']' := by
        rw [compact_eq_level]
        exact level_start _ _
      rw [compact_eq_level]
      exact level_selfDelimiting ih hstart

theorem injective_of_selfDelimiting {write : α → Text} (h : ∀ a, SelfDelimiting write a) :
    Function.Injective write := by
  intro a b heq
  have hnil : Clear [] := fun c hc => nomatch hc
  exact (h a b [] [] hnil hnil (congrArg (· ++ []) heq)).1

/-- **Pretty texts** of different values are different. -/
theorem pretty_injective (depth : Nat) : Function.Injective (pretty depth) :=
  injective_of_selfDelimiting fun a => pretty_selfDelimiting a depth

/-- **Compact texts** of different values are different. -/
theorem compact_injective : Function.Injective compact :=
  injective_of_selfDelimiting compact_selfDelimiting

end Playbook.Json
