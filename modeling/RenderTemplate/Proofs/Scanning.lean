import Mathlib.Data.List.Chain
import RenderTemplate.Proofs.Printing

namespace RenderTemplate

namespace Braces.Scan

/-- A group that is closed stays so whatever follows, and lies inside the text. -/
theorem close?_append {scan : Scan} {count : Nat} {chars : List Char}
    (closed : scan.close? chars = some count) (tail : List Char) :
    scan.close? (chars ++ tail) = some count ∧ count ≤ chars.length := by
  induction chars generalizing scan count with
  | nil => cases closed
  | cons c rest ih =>
    rw [List.cons_append, close?_cons_eq_some_iff, List.length_cons]
    rcases close?_cons_eq_some_iff.mp closed with ⟨closes, rfl⟩ | ⟨next, inner, moves, later, rfl⟩
    · exact ⟨.inl ⟨closes, rfl⟩, Nat.succ_le_succ (Nat.zero_le _)⟩
    · obtain ⟨extended, bounded⟩ := ih later
      exact ⟨.inr ⟨next, inner, moves, extended, rfl⟩, Nat.succ_le_succ bounded⟩

end Braces.Scan

namespace Part

theorem length_braced (code : String) : (braced code).length = code.toList.length + 2 := by
  simp [braced]

/-- A canonical expression in braces ends at its last brace, whatever follows. -/
theorem length?_braced {code : String} (canonical : (expression code).IsCanonical)
    (tail : List Char) :
    Braces.length? (braced code ++ tail) = some (code.toList.length + 2) := by
  rw [← length_braced]
  exact (Braces.Scan.close?_append canonical tail).1

theorem split_braced {code : String} (canonical : (expression code).IsCanonical) {tail : List Char}
    {parts : List Part} (read : split tail = .ok parts) :
    split (braced code ++ tail) = .ok (expression code :: parts) := by
  have closed := length?_braced canonical tail
  simp only [braced, List.cons_append] at closed ⊢
  rw [split, if_pos rfl, closed]
  simp [read]

/-- A text without braces is a literal, if no literal follows. -/
theorem split_plain {text tail : List Char} {parts : List Part} (plain : '{' ∉ text)
    (nonempty : text ≠ []) (detached : ∀ part ∈ parts.head?, part.isLiteral = false)
    (read : split tail = .ok parts) :
    split (text ++ tail) = .ok (literal (String.ofList text) :: parts) := by
  induction text with
  | nil => exact absurd rfl nonempty
  | cons c rest ih =>
    have other : c ≠ '{' := fun same => plain (same ▸ List.mem_cons_self)
    rw [List.cons_append, split, if_neg other]
    by_cases last : rest = []
    · subst last
      rw [List.nil_append, read]
      cases parts with
      | nil => rfl
      | cons part more =>
        cases part with
        | expression code => rfl
        | literal text => exact absurd (detached _ rfl) (by simp [isLiteral])
    · rw [ih (fun held => plain (List.mem_cons_of_mem c held)) last]
      simp [consChar]

theorem exists_literal_of_consChar (c : Char) (parts : List Part) :
    ∃ text, literal text ∈ consChar c parts ∧ c ∈ text.toList := by
  match parts with
  | literal text :: parts => exact ⟨_, List.mem_cons_self, by simp⟩
  | [] => exact ⟨_, List.mem_cons_self, by simp⟩
  | expression code :: parts => exact ⟨_, List.mem_cons_self, by simp⟩

theorem literal_consChar {c : Char} {text : String} {parts : List Part}
    (held : literal text ∈ parts) :
    ∃ longer, literal longer ∈ consChar c parts ∧ text.toList ⊆ longer.toList := by
  match parts, held with
  | expression code :: parts, held => exact ⟨text, List.mem_cons_of_mem _ held, fun _ => id⟩
  | literal first :: parts, held =>
    rcases List.mem_cons.mp held with same | later
    · cases same
      exact ⟨_, List.mem_cons_self, by simp⟩
    · exact ⟨text, List.mem_cons_of_mem _ later, fun _ => id⟩

end Part

namespace Text

/-- No end of a piece of text, but for the whole of it, is also a start of it. -/
def Unbordered (piece : List Char) : Prop :=
  ∀ count < piece.length, 0 < count → ¬ piece.drop count <+: piece

instance (piece : List Char) : Decidable (Unbordered piece) :=
  inferInstanceAs (Decidable (∀ count < piece.length, 0 < count → ¬ piece.drop count <+: piece))

/-- A search finds a piece where it was put, if it was not there before. -/
theorem splitAt?_append {piece before : List Char} (unbordered : Unbordered piece)
    (absent : ¬ piece <:+: before) (rest : List Char) :
    splitAt? piece (before ++ (piece ++ rest)) = some (before, rest) := by
  induction before with
  | nil =>
    have here : after? piece (piece ++ rest) = some rest := after?_eq_some_iff.mpr rfl
    rw [List.nil_append]
    generalize piece ++ rest = chars at here ⊢
    cases chars <;> simp [splitAt?, here]
  | cons c before ih =>
    have later : ¬ piece <:+: before := fun held => absent (List.infix_cons held)
    have notHere : after? piece (c :: before ++ (piece ++ rest)) = none := by
      by_contra found
      obtain ⟨tail, here⟩ := Option.ne_none_iff_exists'.mp found
      rcases List.append_eq_append_iff.mp (after?_eq_some_iff.mp here) with ⟨border, whole, around⟩
        | ⟨more, held, _⟩
      · have front : border <+: piece :=
          List.prefix_of_prefix_length_le ⟨tail, around.symm⟩ ⟨rest, rfl⟩ (by simp [whole]; omega)
        rcases List.eq_nil_or_concat border with rfl | ⟨start, last, rfl⟩
        · exact absent (by simp [whole])
        · exact unbordered (c :: before).length (by simp [whole]) (by simp)
            (by simpa [whole] using front)
      · exact absent (held ▸ List.infix_append [] piece more)
    rw [List.cons_append] at notHere ⊢
    rw [splitAt?, notHere, ih later]
    rfl

/-- Nothing that starts a tag or an expression is left in an escape. -/
theorem escapeChar_harmless (c : Char) : '{' ∉ escapeChar c ∧ '<' ∉ escapeChar c := by
  unfold escapeChar
  split
  · next special => rcases special with rfl | rfl | rfl <;> decide
  · grind

theorem escapeChar_ne_nil (c : Char) : escapeChar c ≠ [] := by
  unfold escapeChar
  split <;> simp [reference]

theorem escape_harmless (text : List Char) :
    '{' ∉ text.flatMap escapeChar ∧ '<' ∉ text.flatMap escapeChar := by
  simp only [List.mem_flatMap, not_exists, not_and]
  exact ⟨fun c _ => (escapeChar_harmless c).1, fun c _ => (escapeChar_harmless c).2⟩

end Text

namespace Part

/-- The part that is read for a part before its references are replaced. -/
def escaped : Part → Part
  | literal text => literal (String.ofList (literal text).print)
  | expression code => expression code

theorem isLiteral_escaped (part : Part) : part.escaped.isLiteral = part.isLiteral := by
  cases part <;> rfl

theorem print_ne_nil {part : Part} (canonical : part.IsCanonical) : part.print ≠ [] := by
  cases part with
  | literal text =>
    obtain ⟨c, rest, front⟩ :=
      List.exists_cons_of_ne_nil (fun empty => canonical (String.toList_eq_nil_iff.mp empty))
    simp [print, front, Text.escapeChar_ne_nil]
  | expression code => simp [print, braced]

/-- Printed parts are split as they were, with their literals escaped. -/
theorem split_print {parts : List Part} (each : ∀ part ∈ parts, part.IsCanonical)
    (apart : parts.IsChain fun part next => ¬(part.isLiteral ∧ next.isLiteral)) :
    split (parts.flatMap print) = .ok (parts.map escaped) := by
  induction parts with
  | nil => rw [List.flatMap_nil, split, List.map_nil]
  | cons part rest ih =>
    have canonical := each part List.mem_cons_self
    have read := ih (fun other held => each other (List.mem_cons_of_mem part held)) apart.tail
    rw [List.flatMap_cons, List.map_cons]
    cases part with
    | expression code => exact split_braced canonical read
    | literal text =>
      refine split_plain (Text.escape_harmless _).1 (print_ne_nil canonical) ?_ read
      intro next first
      rw [List.head?_map] at first
      obtain ⟨second, atHead, rfl⟩ := Option.map_eq_some_iff.mp first
      rw [isLiteral_escaped]
      simpa [isLiteral] using apart.rel_head? atHead

end Part

namespace Entity

theorem read?_append {body : List Char} (inner : body.all isBodyChar) (tail : List Char) :
    read? (body ++ ';' :: tail) = (meaning? body).map fun c => (c, body.length + 1) := by
  have taken : (body ++ ';' :: tail).takeWhile isBodyChar = body := by
    rw [List.takeWhile_append_of_pos fun c held => List.all_eq_true.mp inner c held]
    simp [isBodyChar]
  simp [read?, taken]

/-- A reference to a character is decoded to it, whatever follows. -/
theorem decodeList_meant {body : List Char} {c : Char} (inner : body.all isBodyChar)
    (means : meaning? body = some c) (tail : List Char) :
    decodeList ('&' :: (body ++ ';' :: tail)) = c :: decodeList tail := by
  have found : read? (body ++ ';' :: tail) = some (c, body.length + 1) := by
    rw [read?_append inner, means, Option.map_some]
  rw [decodeList_cons_found found]
  simp

theorem decodeList_escapeChar (c : Char) (tail : List Char) :
    decodeList (Text.escapeChar c ++ tail) = c :: decodeList tail := by
  unfold Text.escapeChar
  split
  · next special =>
    have source : Text.reference c ++ tail =
        '&' :: ('#' :: Nat.toDigits 10 c.toNat ++ ';' :: tail) := by
      simp [Text.reference]
    rw [source]
    rcases special with rfl | rfl | rfl <;> exact decodeList_meant (by decide) (by decide) tail
  · next plain =>
    exact decodeList_cons_other (fun same => plain (Or.inr (Or.inl same))) tail

theorem decodeList_escape (text : List Char) :
    decodeList (text.flatMap Text.escapeChar) = text := by
  induction text with
  | nil => exact decodeList_nil
  | cons c rest ih => rw [List.flatMap_cons, decodeList_escapeChar, ih]

end Entity

namespace Markup

theorem decodePart_escaped (part : Part) : decodePart part.escaped = part := by
  cases part with
  | literal text =>
    simp [Part.escaped, decodePart, decodeEntities, Part.print, Entity.decodeList_escape]
  | expression code => rfl

/-- A quote that is in the expressions of a value only does not end it. -/
theorem quotedLength_append {value : List Char} {parts : List Part} {quote : Char}
    (read : Part.split value = .ok parts)
    (unquoted : ∀ text, Part.literal text ∈ parts → quote ∉ text.toList) (ordinary : quote ≠ '{')
    (tail : List Char) :
    quotedLength quote (value ++ quote :: tail) = .ok value.length := by
  fun_induction Part.split value generalizing parts with
  | case1 => rw [List.nil_append, quotedLength, if_neg ordinary, if_pos rfl, List.length_nil]
  | case2 => contradiction
  | case4 => contradiction
  | case6 => contradiction
  | case3 rest count inner readRest closed ih =>
    cases read
    obtain ⟨extended, bounded⟩ := Braces.Scan.close?_append closed (quote :: tail)
    have found := ih readRest fun text held => unquoted text (List.mem_cons_of_mem _ held)
    have positive := Braces.Scan.close?_pos closed
    rw [List.length_cons] at bounded
    rw [List.cons_append, quotedLength, if_pos rfl]
    rw [show Braces.length? ('{' :: (rest ++ quote :: tail)) = some count from extended]
    simp only [List.drop_append_of_le_length (show count - 1 ≤ rest.length by omega), found, shift,
      List.length_drop, List.length_cons]
    congr 1
    omega
  | case5 c rest other inner readRest ih =>
    cases read
    have inside : c ≠ quote := by
      obtain ⟨text, literal, held⟩ := Part.exists_literal_of_consChar c inner
      exact fun same => unquoted text literal (same ▸ held)
    have found := ih readRest fun text held => by
      obtain ⟨longer, literal, within⟩ := Part.literal_consChar (c := c) held
      exact fun quoted => unquoted longer literal (within quoted)
    rw [List.cons_append, quotedLength, if_neg other, if_neg inside, found]
    simp only [shift, List.length_cons]
    congr 1
    omega

theorem startsMarkup_of_ne {c : Char} (other : c ≠ '<') (rest : List Char) :
    startsMarkup (c :: rest) = false := by
  unfold startsMarkup
  split
  · simp_all
  · rfl

/-- What ends a text: markup, or nothing at all. -/
def EndsText (chars : List Char) : Prop :=
  chars = [] ∨ startsMarkup chars

/-- A text ends where markup starts, and at the end of the source. -/
theorem textLength_end {tail : List Char} (ends : EndsText tail) :
    textLength false tail = .ok 0 := by
  rcases ends with rfl | markup
  · rw [textLength]
  · unfold startsMarkup at markup
    split at markup
    · rw [textLength, if_neg (by decide), if_pos (by simpa [startsMarkup] using markup)]
    · contradiction

theorem textLength_braced {code : String} (canonical : (Part.expression code).IsCanonical)
    {tail : List Char} {count : Nat} (found : textLength false tail = .ok count) :
    textLength false (Part.braced code ++ tail) = .ok ((Part.braced code).length + count) := by
  have closed := Part.length?_braced canonical tail
  rw [Part.length_braced]
  simp only [Part.braced, List.cons_append] at closed ⊢
  rw [textLength, if_pos rfl, closed]
  simp [found, shift]

/-- Characters that start neither markup nor an expression belong to the text. -/
theorem textLength_plain {text tail : List Char} {count : Nat} (plain : '{' ∉ text)
    (calm : '<' ∉ text) (found : textLength false tail = .ok count) :
    textLength false (text ++ tail) = .ok (text.length + count) := by
  induction text with
  | nil => simpa using found
  | cons c rest ih =>
    have other : c ≠ '{' := fun same => plain (same ▸ List.mem_cons_self)
    have quiet := startsMarkup_of_ne (fun same => calm (same ▸ List.mem_cons_self)) (rest ++ tail)
    rw [List.cons_append, textLength, if_neg other, if_neg (by simp [quiet]),
      ih (fun held => plain (List.mem_cons_of_mem c held)) fun held =>
        calm (List.mem_cons_of_mem c held)]
    simp only [shift, List.length_cons]
    congr 1
    omega

/-- At its first character a text is the same as further on, unless that could start markup. -/
theorem textLength_first {chars : List Char} (calm : chars.head? ≠ some '<') :
    textLength true chars = textLength false chars := by
  match chars with
  | [] => rw [textLength, textLength]
  | c :: rest =>
    have quiet := startsMarkup_of_ne (fun same => calm (same ▸ rfl)) rest
    rw [textLength, textLength, quiet]
    simp

theorem textLength_print {part : Part} (canonical : part.IsCanonical) {tail : List Char}
    {count : Nat} (found : textLength false tail = .ok count) :
    textLength false (part.print ++ tail) = .ok (part.print.length + count) := by
  cases part with
  | literal text =>
    exact textLength_plain (Text.escape_harmless _).1 (Text.escape_harmless _).2 found
  | expression code => exact textLength_braced canonical found

theorem textLength_parts {parts : List Part} (each : ∀ part ∈ parts, part.IsCanonical)
    {tail : List Char} (ends : EndsText tail) :
    textLength false (parts.flatMap Part.print ++ tail) =
      .ok (parts.flatMap Part.print).length := by
  induction parts with
  | nil => exact textLength_end ends
  | cons part rest ih =>
    have found := ih fun other held => each other (List.mem_cons_of_mem part held)
    rw [List.flatMap_cons, List.append_assoc, textLength_print (each part List.mem_cons_self) found,
      List.length_append]

end Markup

end RenderTemplate
