import RenderTemplate.Proofs.Groups

namespace RenderTemplate

namespace Braces

namespace Scan

/-- Where a scan stands behind a text, if it goes on there. -/
def run (scan : Scan) : List Char → Option Scan
  | [] => some scan
  | c :: rest =>
    match scan.step c with
    | .on next => next.run rest
    | .close | .stop => none

theorem run_cons {scan next : Scan} {c : Char} (moves : scan.step c = .on next) (rest : List Char) :
    scan.run (c :: rest) = next.run rest := by
  rw [run, moves]

/-- A scan ends its group at a brace exactly if it stands in the group itself in front of this
brace. -/
theorem close?_eq_length_iff (scan : Scan) (text after : List Char) :
    scan.close? (text ++ '}' :: after) = some (text.length + 1) ↔
      scan.run text = some ⟨.code, 1, false⟩ := by
  induction text generalizing scan with
  | nil =>
    rw [List.nil_append, List.length_nil, close?_cons_eq_some_iff, step_eq_close_iff, run,
      Option.some.injEq]
    constructor
    · rintro (⟨⟨_, here⟩, _⟩ | ⟨next, inner, _, closed, size⟩)
      · exact here
      · have positive := close?_pos closed
        omega
    · exact fun here => .inl ⟨⟨rfl, here⟩, rfl⟩
  | cons c rest ih =>
    rw [List.cons_append, close?, run]
    cases scan.step c with
    | on next =>
      dsimp only
      rw [← ih]
      simp
    | close => simp
    | stop => simp

/-- A scan in code at a depth. -/
abbrev code (depth : Nat) : Scan :=
  ⟨.code, depth, false⟩

/-- A scan in a string literal. -/
abbrev string (quote : Char) (depth : Nat) : Scan :=
  ⟨.string quote, depth, false⟩

/-- A scan in a template literal that is not right after a dollar sign. -/
abbrev template (substitutions depth : Nat) : Scan :=
  ⟨.template substitutions false, depth, false⟩

end Scan

/-- Whether a text goes on, and not with a brace that opens a group. -/
def GoesOn (rest : List Char) : Prop :=
  ∃ c more, rest = c :: more ∧ c ≠ '{'

theorem GoesOn.cons {c : Char} (other : c ≠ '{') (rest : List Char) : GoesOn (c :: rest) :=
  ⟨c, rest, rfl, other⟩

theorem GoesOn.append {front rest : List Char} (apart : front.head? ≠ some '{')
    (onward : GoesOn rest) :
    GoesOn (front ++ rest) := by
  cases front with
  | nil => exact onward
  | cons c front => exact .cons (fun same => apart (congrArg some same)) _

section

variable {depth substitutions : Nat} {rest : List Char}

theorem run_escape {mode : Mode} (settled : mode.settled = mode) (c : Char) :
    Scan.run ⟨mode, depth, false⟩ ('\\' :: c :: rest) = Scan.run ⟨mode, depth, false⟩ rest := by
  simp [Scan.run, Scan.step, settled]

theorem run_substitution :
    (Scan.template substitutions depth).run ('$' :: '{' :: rest) =
      (Scan.template (substitutions + 1) depth).run rest :=
  rfl

theorem run_string_cons {quote c : Char} (plain : c ≠ '\\') :
    (Scan.string quote depth).run (c :: rest) =
      if c = quote then (Scan.code depth).run rest else (Scan.string quote depth).run rest := by
  split
  · next ends =>
    subst ends
    exact Scan.run_cons (by simp [Scan.step, plain]) rest
  · next inside => exact Scan.run_cons (by simp [Scan.step, plain, inside]) rest

/-- A dollar sign means nothing unless a brace follows it. -/
theorem run_dollar {dollar : Bool} (onward : GoesOn rest) :
    Scan.run ⟨.template substitutions dollar, depth, false⟩ rest =
      (Scan.template substitutions depth).run rest := by
  obtain ⟨c, more, rfl, other⟩ := onward
  simp [Scan.run, Scan.step, Mode.settled, other]

/-- In a template literal a backquote counts only outside of substitutions, and each closing brace
ends one. -/
theorem run_template_cons {c : Char} (plain : c ≠ '\\') (apart : c = '$' → GoesOn rest) :
    (Scan.template substitutions depth).run (c :: rest) =
      if c = '`' ∧ substitutions = 0 then (Scan.code depth).run rest
      else if c = '}' then (Scan.template (substitutions - 1) depth).run rest
      else (Scan.template substitutions depth).run rest := by
  split
  · next ends => exact Scan.run_cons (by simp [Scan.step, ends]) rest
  split
  · next closing => exact Scan.run_cons (by simp [Scan.step, closing]) rest
  · next inside other =>
    have moves : (Scan.template substitutions depth).step c =
        .on ⟨.template substitutions (c == '$'), depth, false⟩ := by
      simp [Scan.step, plain, inside, other]
    rw [Scan.run_cons moves]
    by_cases dollar : c = '$'
    · exact run_dollar (apart dollar)
    · rw [beq_false_of_ne dollar]

theorem run_code_cons {c : Char} (plain : c ≠ '\\') :
    (Scan.code depth).run (c :: rest) =
      if c = '"' ∨ c = '\'' then (Scan.string c depth).run rest
      else if c = '`' then (Scan.template 0 depth).run rest
      else if c = '{' then (Scan.code (depth + 1)).run rest
      else if c = '}' then if depth ≤ 1 then none else (Scan.code (depth - 1)).run rest
      else (Scan.code depth).run rest := by
  match depth with
  | 0 | 1 | depth + 2 =>
    simp only [Scan.run, Scan.step, plain]
    grind

end

/-- What can stand between the quotes of a string literal. -/
def isStringContent (quote : Char) : List Char → Bool
  | [] => true
  | '\\' :: _ :: rest => isStringContent quote rest
  | c :: rest => c != quote && c != '\\' && isStringContent quote rest

/-- Whether a substitution seems to start in a text. -/
def opensSubstitution : List Char → Bool
  | '$' :: '{' :: _ => true
  | _ :: rest => opensSubstitution rest
  | [] => false

mutual

/-- Code with literals and groups in it. -/
inductive Script where
  | done
  | char (c : Char) (rest : Script)
  | escape (c : Char) (rest : Script)
  | string (quote : Char) (content : List Char) (rest : Script)
  | template (content : Template) (rest : Script)
  | group (inner : Script) (rest : Script)

/-- What stands between the backquotes of a template literal. A scan for the end of a group counts
the substitutions of a template literal, but takes what is inside of them for more of the template:
each brace there ends a substitution, and a quote opens nothing. -/
inductive Template where
  | done
  | char (c : Char) (rest : Template)
  | escape (c : Char) (rest : Template)
  | interpolation (code : Script) (rest : Template)

end

mutual

/-- Code as text. -/
def Script.text : Script → List Char
  | .done => []
  | .char c rest => c :: rest.text
  | .escape c rest => '\\' :: c :: rest.text
  | .string quote content rest => quote :: (content ++ quote :: rest.text)
  | .template content rest => '`' :: (content.text ++ '`' :: rest.text)
  | .group inner rest => '{' :: (inner.text ++ '}' :: rest.text)

def Template.text : Template → List Char
  | .done => []
  | .char c rest => c :: rest.text
  | .escape c rest => '\\' :: c :: rest.text
  | .interpolation code rest => '$' :: '{' :: (code.text ++ '}' :: rest.text)

end

/-- The characters that start or end something in code. -/
def signs : List Char :=
  ['{', '}', '"', '\'', '`', '\\']

mutual

/-- Whether code is read as it was put together: characters by themselves are none that start
something else. -/
def Script.isProper : Script → Bool
  | .done => true
  | .char c rest => !signs.contains c && rest.isProper
  | .escape _ rest => rest.isProper
  | .string quote content rest =>
    (quote == '"' || quote == '\'') && isStringContent quote content && rest.isProper
  | .template content rest => content.isProper && rest.isProper
  | .group inner rest => inner.isProper && rest.isProper

def Template.isProper : Template → Bool
  | .done => true
  | .char c rest =>
    c != '`' && c != '\\' && !(c == '$' && rest.text.head? == some '{') && rest.isProper
  | .escape _ rest => rest.isProper
  | .interpolation code rest => code.isProper && rest.isProper

end

mutual

/-- Whether there is no closing brace in code but those of interpolations, and none that seems to
start. -/
def Script.isBare : Script → Bool
  | .done => true
  | .char _ rest => rest.isBare
  | .escape _ rest => rest.isBare
  | .string _ content rest => !content.contains '}' && !opensSubstitution content && rest.isBare
  | .template content rest => content.isBare && rest.isBare
  | .group _ _ => false

def Template.isBare : Template → Bool
  | .done => true
  | .char c rest => c != '}' && rest.isBare
  | .escape _ rest => rest.isBare
  | .interpolation code rest => code.isBare && rest.isBare

end

/-- Whether there is no backquote in code, and no interpolation that seems to start. -/
def Script.isFlat : Script → Bool
  | .done => true
  | .char c rest => !(c == '$' && rest.text.head? == some '{') && rest.isFlat
  | .escape _ rest => rest.isFlat
  | .string _ content rest => !content.contains '`' && !opensSubstitution content && rest.isFlat
  | .template _ _ => false
  | .group inner rest => inner.isFlat && rest.isFlat

/-- Whether a scan counts the interpolations of a template right. -/
def Template.isClear : Template → Bool
  | .done => true
  | .char _ rest => rest.isClear
  | .escape _ rest => rest.isClear
  | .interpolation code rest => (code.isBare || code.isFlat) && rest.isClear

/-- Whether a scan counts the interpolations of all templates in code right that are not inside of
others. -/
def Script.isClear : Script → Bool
  | .done => true
  | .char _ rest => rest.isClear
  | .escape _ rest => rest.isClear
  | .string _ _ rest => rest.isClear
  | .template content rest => content.isClear && rest.isClear
  | .group inner rest => inner.isClear && rest.isClear

section

variable {depth substitutions : Nat} {rest : List Char}

theorem run_string {quote : Char} (quoted : quote = '"' ∨ quote = '\'') {content : List Char}
    (inside : isStringContent quote content) :
    (Scan.string quote depth).run (content ++ quote :: rest) = (Scan.code depth).run rest := by
  have plain : quote ≠ '\\' := by rcases quoted with rfl | rfl <;> decide
  fun_induction isStringContent quote content with
  | case1 => rw [List.nil_append, run_string_cons plain, if_pos rfl]
  | case2 _ tail ih => rw [List.cons_append, List.cons_append, run_escape rfl, ih inside]
  | case3 c tail _ ih =>
    simp only [Bool.and_eq_true, bne_iff_ne] at inside
    rw [List.cons_append, run_string_cons inside.1.2, if_neg inside.1.1, ih inside.2]

theorem opensSubstitution_cons {c : Char} {tail : List Char}
    (unopened : opensSubstitution (c :: tail) = false) :
    opensSubstitution tail = false ∧ (c = '$' → tail.head? ≠ some '{') := by
  rw [opensSubstitution.eq_def] at unopened
  split at unopened
  · cases unopened
  · next apart same =>
    obtain ⟨rfl, rfl⟩ := List.cons.inj same
    refine ⟨unopened, fun dollar opened => ?_⟩
    obtain ⟨more, rfl⟩ := List.head?_eq_some_iff.mp opened
    exact apart more dollar rfl
  · contradiction

/-- A string literal inside of a substitution is taken for a part of the template: each brace in it
ends a substitution. -/
theorem run_content {quote : Char} (quoted : quote = '"' ∨ quote = '\'') {content : List Char}
    (inside : isStringContent quote content) (unopened : opensSubstitution content = false)
    (safe : '`' ∉ content ∨ '}' ∉ content ∧ substitutions ≠ 0) (depth : Nat) (rest : List Char) :
    ∃ left ≤ substitutions, ('}' ∉ content → left = substitutions) ∧
      (Scan.template substitutions depth).run (content ++ quote :: rest) =
        (Scan.template left depth).run rest := by
  fun_induction isStringContent quote content generalizing substitutions with
  | case1 =>
    refine ⟨substitutions, Nat.le_refl _, fun _ => rfl, ?_⟩
    rcases quoted with rfl | rfl
    · rw [List.nil_append, run_template_cons (by decide) (by simp)]
      simp
    · rw [List.nil_append, run_template_cons (by decide) (by simp)]
      simp
  | case2 c tail ih =>
    have later := (opensSubstitution_cons (opensSubstitution_cons unopened).1).1
    obtain ⟨left, fewer, kept, walked⟩ :=
      ih inside later (show '`' ∉ tail ∨ '}' ∉ tail ∧ substitutions ≠ 0 by grind)
    refine ⟨left, fewer, fun none => kept (by grind), ?_⟩
    rw [List.cons_append, List.cons_append, run_escape rfl, walked]
  | case3 c tail _ ih =>
    simp only [Bool.and_eq_true, bne_iff_ne] at inside
    obtain ⟨later, alone⟩ := opensSubstitution_cons unopened
    have apart : c = '$' → GoesOn (tail ++ quote :: rest) := by
      intro dollar
      refine .append (alone dollar) (.cons ?_ rest)
      rcases quoted with rfl | rfl <;> decide
    rw [List.cons_append, run_template_cons inside.1.2 apart, if_neg (by grind)]
    by_cases closing : c = '}'
    · obtain ⟨left, fewer, _, walked⟩ :=
        ih inside.2 later (show '`' ∉ tail ∨ '}' ∉ tail ∧ substitutions - 1 ≠ 0 by grind)
      rw [if_pos closing]
      exact ⟨left, by omega, fun none => absurd (closing ▸ List.mem_cons_self) none, walked⟩
    · obtain ⟨left, fewer, kept, walked⟩ :=
        ih inside.2 later (show '`' ∉ tail ∨ '}' ∉ tail ∧ substitutions ≠ 0 by grind)
      rw [if_neg closing]
      exact ⟨left, fewer, fun none => kept fun held => none (List.mem_cons_of_mem _ held), walked⟩

/-- A scan of a template passes over a character that means nothing there. -/
theorem run_template_other {c : Char} (plain : c ≠ '\\') (inside : c = '`' → substitutions ≠ 0)
    (other : c ≠ '}') (apart : c = '$' → GoesOn rest) :
    (Scan.template substitutions depth).run (c :: rest) =
      (Scan.template substitutions depth).run rest := by
  rw [run_template_cons plain apart, if_neg fun both => inside both.1 both.2, if_neg other]

theorem run_template_brace :
    (Scan.template substitutions depth).run ('}' :: rest) =
      (Scan.template (substitutions - 1) depth).run rest := by
  rw [run_template_cons (by decide) (by simp), if_neg (by simp), if_pos rfl]

theorem Script.head?_text_of_isBare {script : Script} (proper : script.isProper)
    (bare : script.isBare) :
    script.text.head? ≠ some '{' := by
  cases script with
  | done => simp [text]
  | char c rest =>
    simp only [isProper, Bool.and_eq_true, Bool.not_eq_true'] at proper
    intro opened
    simp only [text, List.head?_cons, Option.some.injEq] at opened
    rw [opened] at proper
    cases proper.1
  | escape c rest => simp [text]
  | string quote content rest =>
    simp only [isProper, Bool.and_eq_true, Bool.or_eq_true, beq_iff_eq] at proper
    rcases proper.1.1 with rfl | rfl <;> simp [text]
  | template content rest => simp [text]
  | group inner rest => cases bare

end

theorem plain_of_contains {c : Char} (plain : signs.contains c = false) :
    c ≠ '{' ∧ c ≠ '}' ∧ c ≠ '"' ∧ c ≠ '\'' ∧ c ≠ '`' ∧ c ≠ '\\' := by
  simpa [signs] using plain

mutual

/-- Where each brace is one of an interpolation, a scan has as many open substitutions behind code
as before it. -/
theorem Script.run_bare {depth substitutions : Nat} (script : Script) (proper : script.isProper)
    (bare : script.isBare) {rest : List Char} (onward : GoesOn rest) :
    (Scan.template (substitutions + 1) depth).run (script.text ++ rest) =
      (Scan.template (substitutions + 1) depth).run rest := by
  match script with
  | .done => rfl
  | .char c more =>
    rw [Script.isProper, Bool.and_eq_true, Bool.not_eq_true'] at proper
    rw [Script.isBare] at bare
    obtain ⟨_, closing, _, _, backquote, plain⟩ := plain_of_contains proper.1
    have next := GoesOn.append (more.head?_text_of_isBare proper.2 bare) onward
    rw [Script.text, List.cons_append,
      run_template_other plain (fun same => absurd same backquote) closing fun _ =>
        next, Script.run_bare more proper.2 bare onward]
  | .escape c more =>
    rw [Script.text, List.cons_append, List.cons_append, run_escape rfl,
      Script.run_bare more proper bare onward]
  | .string quote content more =>
    simp only [Script.isProper, Bool.and_eq_true, Bool.or_eq_true, beq_iff_eq] at proper
    simp only [Script.isBare, Bool.and_eq_true, Bool.not_eq_true', List.contains_eq_mem,
      decide_eq_false_iff_not] at bare
    obtain ⟨⟨quoted, inside⟩, proper⟩ := proper
    obtain ⟨⟨noBrace, unopened⟩, bare⟩ := bare
    obtain ⟨left, _, kept, walked⟩ :=
      run_content quoted inside unopened (.inr ⟨noBrace, Nat.succ_ne_zero substitutions⟩)
      depth (more.text ++ rest)
    rw [kept noBrace] at walked
    have opened : quote ≠ '\\' ∧ quote ≠ '`' ∧ quote ≠ '}' ∧ quote ≠ '$' := by
      rcases quoted with rfl | rfl <;> decide
    rw [Script.text, List.cons_append, List.append_assoc, List.cons_append,
      run_template_other opened.1 (fun same => absurd same opened.2.1) opened.2.2.1 fun same =>
        absurd same opened.2.2.2,
      walked, Script.run_bare more proper bare onward]
  | .template content more =>
    rw [Script.isProper, Bool.and_eq_true] at proper
    rw [Script.isBare, Bool.and_eq_true] at bare
    rw [Script.text, List.cons_append, List.append_assoc, List.cons_append,
      run_template_other (by decide) (fun _ => Nat.succ_ne_zero _) (by decide) (by simp),
      Template.run_bare content proper.1 bare.1 (.cons (by decide) _),
      run_template_other (by decide) (fun _ => Nat.succ_ne_zero _) (by decide) (by simp),
      Script.run_bare more proper.2 bare.2 onward]
  | .group inner more => cases bare

theorem Template.run_bare {depth substitutions : Nat} (template : Template)
    (proper : template.isProper) (bare : template.isBare) {rest : List Char}
    (onward : GoesOn rest) :
    (Scan.template (substitutions + 1) depth).run (template.text ++ rest) =
      (Scan.template (substitutions + 1) depth).run rest := by
  match template with
  | .done => rfl
  | .char c more =>
    simp only [Template.isProper, Bool.and_eq_true, bne_iff_ne, Bool.not_eq_true',
      Bool.and_eq_false_iff, beq_eq_false_iff_ne]
      at proper
    simp only [Template.isBare, Bool.and_eq_true, bne_iff_ne] at bare
    obtain ⟨⟨⟨backquote, plain⟩, alone⟩, proper⟩ := proper
    have next : c = '$' → GoesOn (more.text ++ rest) := fun dollar =>
      .append (alone.resolve_left fun other => other dollar) onward
    rw [Template.text, List.cons_append,
      run_template_other plain (fun same => absurd same backquote) bare.1 next,
      Template.run_bare more proper bare.2 onward]
  | .escape c more =>
    rw [Template.text, List.cons_append, List.cons_append, run_escape rfl,
      Template.run_bare more proper bare onward]
  | .interpolation code more =>
    rw [Template.isProper, Bool.and_eq_true] at proper
    rw [Template.isBare, Bool.and_eq_true] at bare
    rw [Template.text, List.cons_append, List.cons_append, List.append_assoc, List.cons_append,
      run_substitution, Script.run_bare code proper.1 bare.1 (.cons (by decide) _),
      run_template_brace, Nat.add_sub_cancel, Template.run_bare more proper.2 bare.2 onward]

end

/-- Where no backquote can end the template, a scan has no more open substitutions behind code than
before it. -/
theorem Script.run_flat (script : Script) (proper : script.isProper) (flat : script.isFlat)
    (depth substitutions : Nat) {rest : List Char} (onward : GoesOn rest) :
    ∃ left ≤ substitutions,
      (Scan.template substitutions depth).run (script.text ++ rest) =
        (Scan.template left depth).run rest := by
  match script with
  | .done => exact ⟨substitutions, Nat.le_refl _, rfl⟩
  | .char c more =>
    rw [isProper, Bool.and_eq_true, Bool.not_eq_true'] at proper
    simp only [isFlat, Bool.and_eq_true, Bool.not_eq_true', Bool.and_eq_false_iff,
      beq_eq_false_iff_ne] at flat
    obtain ⟨_, closing, _, _, backquote, plain⟩ := plain_of_contains proper.1
    have next : c = '$' → GoesOn (more.text ++ rest) := fun dollar =>
      .append (flat.1.resolve_left fun other => other dollar) onward
    obtain ⟨left, fewer, walked⟩ := run_flat more proper.2 flat.2 depth substitutions onward
    refine ⟨left, fewer, ?_⟩
    rw [text, List.cons_append,
      run_template_other plain (fun same => absurd same backquote) closing next, walked]
  | .escape c more =>
    obtain ⟨left, fewer, walked⟩ := run_flat more proper flat depth substitutions onward
    exact ⟨left, fewer, by rw [text, List.cons_append, List.cons_append, run_escape rfl, walked]⟩
  | .string quote content more =>
    simp only [isProper, Bool.and_eq_true, Bool.or_eq_true, beq_iff_eq] at proper
    simp only [isFlat, Bool.and_eq_true, Bool.not_eq_true', List.contains_eq_mem,
      decide_eq_false_iff_not] at flat
    obtain ⟨⟨quoted, inside⟩, proper⟩ := proper
    obtain ⟨⟨noBackquote, unopened⟩, flat⟩ := flat
    obtain ⟨left, fewer, _, walked⟩ :=
      run_content quoted inside unopened (.inl noBackquote) depth (more.text ++ rest)
    obtain ⟨last, fewest, walkedMore⟩ := run_flat more proper flat depth left onward
    have opened : quote ≠ '\\' ∧ quote ≠ '`' ∧ quote ≠ '}' ∧ quote ≠ '$' := by
      rcases quoted with rfl | rfl <;> decide
    refine ⟨last, Nat.le_trans fewest fewer, ?_⟩
    rw [text, List.cons_append, List.append_assoc, List.cons_append,
      run_template_other opened.1 (fun same => absurd same opened.2.1) opened.2.2.1 fun same =>
        absurd same opened.2.2.2,
      walked, walkedMore]
  | .template content more => cases flat
  | .group inner more =>
    rw [isProper, Bool.and_eq_true] at proper
    rw [isFlat, Bool.and_eq_true] at flat
    have closing : GoesOn ('}' :: (more.text ++ rest)) := .cons (by decide) _
    obtain ⟨left, fewer, walked⟩ := run_flat inner proper.1 flat.1 depth substitutions closing
    obtain ⟨last, fewest, walkedMore⟩ := run_flat more proper.2 flat.2 depth (left - 1) onward
    refine ⟨last, by omega, ?_⟩
    rw [text, List.cons_append, List.append_assoc, List.cons_append,
      run_template_other (by decide) (by simp) (by decide) (by simp), walked, run_template_brace,
      walkedMore]

/-- A scan comes out of a template literal at its last backquote, if it counts its interpolations
right. -/
theorem Template.run_clear {depth : Nat} (template : Template) (proper : template.isProper)
    (clear : template.isClear) (rest : List Char) :
    (Scan.template 0 depth).run (template.text ++ '`' :: rest) = (Scan.code depth).run rest := by
  match template with
  | .done => rw [text, List.nil_append, run_template_cons (by decide) (by simp), if_pos ⟨rfl, rfl⟩]
  | .char c more =>
    simp only [isProper, Bool.and_eq_true, bne_iff_ne, Bool.not_eq_true', Bool.and_eq_false_iff,
      beq_eq_false_iff_ne]
      at proper
    rw [isClear] at clear
    obtain ⟨⟨⟨backquote, plain⟩, alone⟩, proper⟩ := proper
    have next : c = '$' → GoesOn (more.text ++ '`' :: rest) := fun dollar =>
      .append (alone.resolve_left fun other => other dollar) (.cons (by decide) rest)
    rw [text, List.cons_append, run_template_cons plain next, if_neg fun both =>
      backquote both.1, Nat.zero_sub, ite_self, run_clear more proper clear]
  | .escape c more =>
    rw [text, List.cons_append, List.cons_append, run_escape rfl, run_clear more proper clear]
  | .interpolation code more =>
    rw [isProper, Bool.and_eq_true] at proper
    rw [isClear, Bool.and_eq_true, Bool.or_eq_true] at clear
    have counted :
        ∃ left ≤ 1, (Scan.template 1 depth).run (code.text ++ '}' :: (more.text ++ '`' :: rest)) =
        (Scan.template left depth).run ('}' :: (more.text ++ '`' :: rest)) := by
      rcases clear.1 with bare | flat
      · exact ⟨1, Nat.le_refl _, code.run_bare proper.1 bare (.cons (by decide) _)⟩
      · exact code.run_flat proper.1 flat depth 1 (.cons (by decide) _)
    obtain ⟨left, fewer, walked⟩ := counted
    rw [text, List.cons_append, List.cons_append, List.append_assoc, List.cons_append,
      run_substitution, Nat.zero_add, walked, run_template_brace, Nat.sub_eq_zero_of_le fewer,
      run_clear more proper.2 clear.2]

/-- A scan passes over code as if there were none, if it counts the interpolations of its template
literals right. -/
theorem Script.run_clear (script : Script) (proper : script.isProper) (clear : script.isClear)
    (depth : Nat) (rest : List Char) :
    (Scan.code (depth + 1)).run (script.text ++ rest) = (Scan.code (depth + 1)).run rest := by
  match script with
  | .done => rfl
  | .char c more =>
    rw [isProper, Bool.and_eq_true, Bool.not_eq_true'] at proper
    rw [isClear] at clear
    obtain ⟨opening, closing, double, single, backquote, plain⟩ := plain_of_contains proper.1
    rw [text, List.cons_append, run_code_cons plain, if_neg fun either =>
      either.elim double single, if_neg backquote, if_neg opening, if_neg closing,
        run_clear more proper.2 clear]
  | .escape c more =>
    rw [text, List.cons_append, List.cons_append, run_escape rfl, run_clear more proper clear]
  | .string quote content more =>
    simp only [isProper, Bool.and_eq_true, Bool.or_eq_true, beq_iff_eq] at proper
    rw [isClear] at clear
    obtain ⟨⟨quoted, inside⟩, proper⟩ := proper
    have plain : quote ≠ '\\' := by rcases quoted with rfl | rfl <;> decide
    rw [text, List.cons_append, List.append_assoc, List.cons_append, run_code_cons plain,
      if_pos quoted, run_string quoted inside, run_clear more proper clear]
  | .template content more =>
    rw [isProper, Bool.and_eq_true] at proper
    rw [isClear, Bool.and_eq_true] at clear
    rw [text, List.cons_append, List.append_assoc, List.cons_append, run_code_cons (by decide),
      if_neg (by decide), if_pos rfl, content.run_clear proper.1 clear.1,
      run_clear more proper.2 clear.2]
  | .group inner more =>
    rw [isProper, Bool.and_eq_true] at proper
    rw [isClear, Bool.and_eq_true] at clear
    rw [text, List.cons_append, List.append_assoc, List.cons_append, run_code_cons (by decide),
      if_neg (by decide), if_neg (by decide), if_pos rfl, run_clear inner proper.1 clear.1,
      run_code_cons (by decide), if_neg (by decide), if_neg (by decide), if_neg (by decide),
      if_pos rfl, if_neg (by omega), Nat.add_sub_cancel, run_clear more proper.2 clear.2]

/-- The end of a group of code is found exactly if a scan stands in the group itself behind the
code. It does so if in each interpolation of a template literal that is not inside of another one
there is no brace but those of interpolations, or no backquote and nothing that seems to start an
interpolation. -/
theorem groupEnd_iff {script : Script} (proper : script.isProper) (after : List Char) :
    (endAt? ('{' :: (script.text ++ '}' :: after)) 0 =
      some (Text.byteLength ('{' :: (script.text ++ ['}']))) ↔
      (Scan.code 1).run script.text = some (Scan.code 1)) ∧
    (script.isClear →
      endAt? ('{' :: (script.text ++ '}' :: after)) 0 =
        some (Text.byteLength ('{' :: (script.text ++ ['}'])))) := by
  have precise : endAt? ('{' :: (script.text ++ '}' :: after)) 0 =
      some (Text.byteLength ('{' :: (script.text ++ ['}']))) ↔
      (Scan.code 1).run script.text = some (Scan.code 1) := by
    have ends := endAt?_eq_byteLength_iff ('{' :: (script.text ++ ['}'])) after
    rw [List.cons_append, List.append_assoc, List.singleton_append] at ends
    rw [ends, ← Scan.close?_eq_length_iff (.code 1) script.text after]
    change (Scan.close? (.code 1) (script.text ++ '}' :: after)).map (· + 1) = some _ ↔ _
    simp
  refine ⟨precise, fun clear => precise.mpr ?_⟩
  have walked := script.run_clear proper clear 0 []
  rwa [List.append_nil] at walked

/-- A template literal inside of another one, and one with an object in it. -/
def nestedScript : Script :=
  .char 'a' (.template
    (.char 'x'
      (.interpolation (.template (.char 'y' (.interpolation (.char 'z' .done) .done)) .done) .done))
    (.group (.template (.interpolation (.group (.char 'c' .done) .done) (.char '}' .done)) .done)
      .done))

theorem nestedScript_ends :
    String.ofList nestedScript.text = "a`x$\x7b`y$\x7bz\x7d`\x7d`\x7b`$\x7b\x7bc\x7d\x7d\x7d`\x7d" ∧
      nestedScript.isProper ∧ nestedScript.isClear ∧
      endAt? ('{' :: (nestedScript.text ++ '}' :: ['}'])) 0 =
        some (Text.byteLength ('{' :: (nestedScript.text ++ ['}']))) ∧
      (Scan.code 1).run nestedScript.text = some (Scan.code 1) := by
  have proper : nestedScript.isProper := by decide
  have clear : nestedScript.isClear := by decide
  obtain ⟨precise, found⟩ := groupEnd_iff proper ['}']
  exact ⟨by decide, proper, clear, found clear, precise.mp (found clear)⟩

/-- A template literal inside of another one, with a brace in it. -/
def crossedScript : Script :=
  .template (.char 'a' (.interpolation (.template (.char '}' .done) .done) .done)) .done

/-- A brace inside of a template literal can be taken for the end of a group. -/
theorem crossedScript_cut :
    String.ofList ('{' :: (crossedScript.text ++ ['}'])) = "\x7b`a$\x7b`\x7d`\x7d`\x7d" ∧
      crossedScript.isProper ∧
      endAt? ('{' :: (crossedScript.text ++ ['}'])) 0 = some 9 ∧
      Text.byteLength ('{' :: (crossedScript.text ++ ['}'])) = 11 := by
  decide +kernel

end Braces

end RenderTemplate
