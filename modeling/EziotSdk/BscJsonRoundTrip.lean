import EziotSdk.BscJsonText

/-!
# Printed JSON documents are read back

What `bscJSON_Parse` makes of the text of a tree, formatted or not.  Elements
and members are read one by one, each with the text of the others behind it;
the induction is on the containers that may still be opened.
-/

namespace BscJson

/-! ## Values -/

@[simp] theorem skipWhitespace_cons_of_lt {char : Char}
    (hchar : 32 < char.toNat) (rest : CString) :
    skipWhitespace (char :: rest) = char :: rest := by
  rw [skipWhitespace, List.dropWhile_cons_of_neg]
  rw [decide_eq_true_eq]
  omega

theorem skipWhitespace_append {blanks : CString}
    (hblanks : ∀ char ∈ blanks, char.toNat ≤ 32) (rest : CString) :
    skipWhitespace (blanks ++ rest) = skipWhitespace rest := by
  rw [skipWhitespace, List.dropWhile_append_of_pos]
  · rfl
  · intro char hchar
    rw [decide_eq_true_eq]
    exact hblanks char hchar

/-- A text that begins with a visible ASCII character, and does not close an
array. -/
def StartsVisible (text : CString) : Prop :=
  ∃ first more, text = first :: more ∧ 32 < first.toNat ∧ first ≠ ']' ∧
    first.toNat < 128

theorem StartsVisible.skipWhitespace {text : CString}
    (hstarts : StartsVisible text) (rest : CString) :
    skipWhitespace (text ++ rest) = text ++ rest := by
  rcases hstarts with ⟨first, more, rfl, hfirst, -, -⟩
  exact skipWhitespace_cons_of_lt hfirst (more ++ rest)

theorem Decimal.startsVisible {decimal : Decimal}
    (hformed : decimal.WellFormed) : ∃ first more,
      decimal.text = first :: more ∧ (first = '-' ∨ first.isDigit = true) := by
  obtain ⟨negative, whole, fraction⟩ := decimal
  have hwhole := hformed.whole_isDigit
  have hne := hformed.whole_ne_nil
  cases negative with
  | true => exact ⟨'-', _, rfl, Or.inl rfl⟩
  | false =>
      cases whole with
      | nil => exact absurd rfl hne
      | cons first more =>
          exact ⟨first, _, rfl, Or.inr (hwhole first List.mem_cons_self)⟩

theorem isDigit_toNat {char : Char} (hdigit : char.isDigit = true) :
    48 ≤ char.toNat ∧ char.toNat ≤ 57 := by
  simp only [Char.isDigit, Bool.and_eq_true, decide_eq_true_eq] at hdigit
  exact hdigit

theorem startsVisible_of_printNumber {value : ℚ} {text : CString}
    (hprint : printNumber value = some text) : StartsVisible text := by
  rcases printNumber_eq_text hprint with ⟨decimal, hformed, rfl, -⟩
  rcases Decimal.startsVisible hformed with ⟨first, more, htext, hfirst⟩
  refine ⟨first, more, htext, ?_⟩
  rcases hfirst with rfl | hdigit
  · decide
  · have hbounds := isDigit_toNat hdigit
    refine ⟨by omega, ?_, by omega⟩
    rintro rfl
    exact absurd hbounds.2 (by decide)

theorem startsVisible_of_printValue
    {format : Bool} {depth : ℕ} {json : BscJson} {text : CString}
    (hprint : printValue format depth json = some text) :
    StartsVisible text := by
  cases json with
  | null =>
      rw [printValue, Option.some.injEq] at hprint
      exact ⟨'n', _, hprint.symm, by decide, by decide, by decide⟩
  | bool value =>
      cases value with
      | true =>
          rw [printValue, Option.some.injEq] at hprint
          exact ⟨'t', _, hprint.symm, by decide, by decide, by decide⟩
      | false =>
          rw [printValue, Option.some.injEq] at hprint
          exact ⟨'f', _, hprint.symm, by decide, by decide, by decide⟩
  | number value =>
      rw [printValue] at hprint
      exact startsVisible_of_printNumber hprint
  | string value =>
      rw [printValue, Option.some.injEq] at hprint
      exact ⟨'"', _, hprint.symm, by decide, by decide, by decide⟩
  | array items =>
      rw [printValue, Option.map_eq_some_iff] at hprint
      rcases hprint with ⟨body, -, htext⟩
      exact ⟨'[', _, htext.symm, by decide, by decide, by decide⟩
  | object members =>
      rw [printValue, Option.map_eq_some_iff] at hprint
      rcases hprint with ⟨body, -, htext⟩
      exact ⟨'\x7b', _, htext.symm, by decide, by decide, by decide⟩

/-- The tree that the parser makes of the printed one. -/
def reparsed (nearest : ℚ → ℚ) (json : BscJson) : BscJson :=
  json.mapNumbers fun value => nearest (printedNumber value)

/-- The parser of values reads what is printed for this value, with at most
this many containers in it. -/
def ReadsPrinted (nearest : ℚ → ℚ) (value : CString → Option (BscJson × CString))
    (format : Bool) (depth below : ℕ) (json : BscJson) : Prop :=
  ∀ text rest, printValue format depth json = some text →
    NoNumberChar rest →
    value (text ++ rest) =
      if json.nesting ≤ below then some (json.reparsed nearest, rest)
      else none

variable {nearest : ℚ → ℚ} {value : CString → Option (BscJson × CString)}
  {format : Bool} {depth below : ℕ}

theorem noNumberChar_cons {char : Char} (hchar : isNumberChar char = false)
    (rest : CString) : NoNumberChar (char :: rest) := by
  intro first hfirst
  cases hfirst
  exact hchar

/-- The blanks that formatted printing adds. -/
theorem blank_of_format {format : Bool} {blanks : CString}
    (hblanks : ∀ char ∈ blanks, char.toNat ≤ 32) :
    ∀ char ∈ (if format then blanks else []), char.toNat ≤ 32 := by
  cases format with
  | true => exact hblanks
  | false => simp

theorem blank_replicate_tab (count : ℕ) :
    ∀ char ∈ List.replicate count '\t', char.toNat ≤ 32 := by
  intro char hchar
  rw [List.eq_of_mem_replicate hchar]
  decide

theorem length_le_of_printElements
    {items : List BscJson} {body : CString}
    (hprint : printElements format depth items = some body) :
    items.length ≤ body.length := by
  induction items generalizing body with
  | nil => exact Nat.zero_le _
  | cons item rest ih =>
      simp only [printElements, Option.bind_eq_bind, Option.bind_eq_some_iff,
        Option.pure_def, Option.some.injEq] at hprint
      rcases hprint with ⟨text, htext, more, hmore, rfl⟩
      rcases startsVisible_of_printValue htext with ⟨first, tail, rfl, -⟩
      have hrest := ih hmore
      simp only [List.length_cons, List.length_append]
      omega

/-- The loop of `parse_array` over a printed list of elements. -/
theorem parseElements_printElements
    {items : List BscJson} {body rest : CString}
    (hreads : ∀ item ∈ items,
      ReadsPrinted nearest value format depth below item)
    (hne : items ≠ []) (hprint : printElements format depth items = some body)
    {fuel : ℕ} (hfuel : items.length ≤ fuel) {input : CString}
    (hinput : skipWhitespace input = body ++ ']' :: rest) :
    parseElements value fuel input =
      if nestingElements items ≤ below then
        some (mapNumbersElements (fun v => nearest (printedNumber v)) items,
          rest)
      else none := by
  induction items generalizing body fuel input with
  | nil => exact absurd rfl hne
  | cons item items ih =>
      simp only [printElements, Option.bind_eq_bind, Option.bind_eq_some_iff,
        Option.pure_def, Option.some.injEq] at hprint
      rcases hprint with ⟨text, htext, more, hmore, rfl⟩
      have hitem := hreads item List.mem_cons_self
      cases fuel with
      | zero => simp at hfuel
      | succ fuel =>
          rw [parseElements, hinput]
          cases items with
          | nil =>
              rw [printElements, Option.some.injEq] at hmore
              subst hmore
              have hvalue := hitem text (']' :: rest) htext
                (noNumberChar_cons (by decide) rest)
              simp only [List.isEmpty_nil, if_true, List.append_nil]
              rw [hvalue]
              simp only [nestingElements, Nat.max_zero]
              split_ifs
              · simp [mapNumbersElements, reparsed]
              · rfl
          | cons second items =>
              have hblank : ∀ char ∈ (if format then [' '] else []),
                  char.toNat ≤ 32 :=
                blank_of_format (by simp)
              have hvalue := hitem text
                (',' :: ((if format then [' '] else []) ++ more ++
                  ']' :: rest)) htext (noNumberChar_cons (by decide) _)
              have hvisible : skipWhitespace (more ++ ']' :: rest) =
                  more ++ ']' :: rest := by
                simp only [printElements, Option.bind_eq_bind,
                  Option.bind_eq_some_iff, Option.pure_def,
                  Option.some.injEq] at hmore
                rcases hmore with ⟨next, hnext, tail, -, rfl⟩
                rw [List.append_assoc, List.append_assoc]
                exact (startsVisible_of_printValue hnext).skipWhitespace _
              have hmoreInput : skipWhitespace
                  ((if format then [' '] else []) ++ more ++ ']' :: rest) =
                    more ++ ']' :: rest := by
                rw [List.append_assoc, skipWhitespace_append hblank, hvisible]
              have hrec := @ih more
                (fun other hother =>
                  hreads other (List.mem_cons_of_mem _ hother))
                (by simp) hmore fuel (by simpa using hfuel) _ hmoreInput
              have hshape : text ++ (if (second :: items).isEmpty then []
                    else ',' :: if format then [' '] else []) ++ more ++
                    ']' :: rest =
                  text ++ ',' :: ((if format then [' '] else []) ++ more ++
                    ']' :: rest) := by
                simp
              rw [hshape, hvalue]
              rw [nestingElements]
              by_cases hfirst : item.nesting ≤ below
              · rw [if_pos hfirst]
                simp only [Option.bind_eq_bind, Option.bind_some]
                rw [skipWhitespace_cons_of_lt (by decide)]
                simp only
                rw [hrec]
                by_cases hothers : nestingElements (second :: items) ≤ below
                · rw [if_pos hothers, if_pos (max_le hfirst hothers)]
                  rfl
                · rw [if_neg hothers, if_neg (fun hall =>
                    hothers (le_trans (le_max_right _ _) hall))]
                  rfl
              · rw [if_neg hfirst, if_neg (fun hall =>
                  hfirst (le_trans (le_max_left _ _) hall))]
                rfl

theorem length_le_of_printMembers
    {members : List (CString × BscJson)} {body : CString}
    (hprint : printMembers format depth members = some body) :
    members.length ≤ body.length := by
  induction members generalizing body with
  | nil => exact Nat.zero_le _
  | cons member rest ih =>
      simp only [printMembers, Option.bind_eq_bind, Option.bind_eq_some_iff,
        Option.pure_def, Option.some.injEq] at hprint
      rcases hprint with ⟨text, -, more, hmore, rfl⟩
      have hrest := ih hmore
      simp only [List.length_cons, List.length_append]
      omega

/-- The blanks in front of a member's value. -/
theorem skipWhitespace_memberValue {text tail : CString} {json : BscJson}
    (htext : printValue format depth json = some text) :
    skipWhitespace ((if format then ['\t'] else []) ++ text ++ tail) =
      text ++ tail := by
  have hblank : ∀ char ∈ (if format then ['\t'] else []),
      char.toNat ≤ 32 :=
    blank_of_format (by simp)
  rw [List.append_assoc, skipWhitespace_append hblank,
    (startsVisible_of_printValue htext).skipWhitespace]

/-- One pass of the loop of `parse_object`, when another member follows. -/
theorem parseMembers_comma
    {name text tail more : CString} {json : BscJson} (hnul : '\x00' ∉ name)
    (hreads : ReadsPrinted nearest value format depth below json)
    (htext : printValue format depth json = some text)
    (htail : NoNumberChar tail) {input : CString}
    (hinput : skipWhitespace input = printStringPtr name ++
      ':' :: ((if format then ['\t'] else []) ++ text ++ tail))
    (hmark : skipWhitespace tail = ',' :: more) (fuel : ℕ) :
    parseMembers value (fuel + 1) input =
      if json.nesting ≤ below then
        (parseMembers value fuel more).map fun parsed =>
          ((name, json.reparsed nearest) :: parsed.1, parsed.2)
      else none := by
  rw [parseMembers, hinput, parseString_printStringPtr hnul]
  simp only [Option.bind_eq_bind, Option.bind_some]
  rw [skipWhitespace_cons_of_lt (by decide)]
  simp only [skipWhitespace_memberValue htext, hreads text tail htext htail]
  split_ifs
  · simp only [Option.bind_some, hmark]
    cases parseMembers value fuel more <;> rfl
  · rfl

/-- The last pass of the loop of `parse_object`. -/
theorem parseMembers_brace
    {name text tail more : CString} {json : BscJson} (hnul : '\x00' ∉ name)
    (hreads : ReadsPrinted nearest value format depth below json)
    (htext : printValue format depth json = some text)
    (htail : NoNumberChar tail) {input : CString}
    (hinput : skipWhitespace input = printStringPtr name ++
      ':' :: ((if format then ['\t'] else []) ++ text ++ tail))
    (hmark : skipWhitespace tail = '\x7d' :: more) (fuel : ℕ) :
    parseMembers value (fuel + 1) input =
      if json.nesting ≤ below then
        some ([(name, json.reparsed nearest)], more)
      else none := by
  rw [parseMembers, hinput, parseString_printStringPtr hnul]
  simp only [Option.bind_eq_bind, Option.bind_some]
  rw [skipWhitespace_cons_of_lt (by decide)]
  simp only [skipWhitespace_memberValue htext, hreads text tail htext htail]
  split_ifs
  · simp only [Option.bind_some, hmark]
    rfl
  · rfl

theorem parseMembers_printMembers
    {members : List (CString × BscJson)} {body closing rest : CString}
    (hreads : ∀ member ∈ members,
      ReadsPrinted nearest value format depth below member.2)
    (hnul : ∀ member ∈ members, '\x00' ∉ member.1)
    (hne : members ≠ [])
    (hprint : printMembers format depth members = some body)
    (hclosing : skipWhitespace closing = '\x7d' :: rest)
    (hstop : NoNumberChar closing)
    {fuel : ℕ} (hfuel : members.length ≤ fuel) {input : CString}
    (hinput : skipWhitespace input = skipWhitespace (body ++ closing)) :
    parseMembers value fuel input =
      if nestingMembers members ≤ below then
        some (mapNumbersMembers (fun v => nearest (printedNumber v)) members,
          rest)
      else none := by
  induction members generalizing body fuel input with
  | nil => exact absurd rfl hne
  | cons member members ih =>
      simp only [printMembers, Option.bind_eq_bind, Option.bind_eq_some_iff,
        Option.pure_def, Option.some.injEq] at hprint
      rcases hprint with ⟨text, htext, more, hmore, rfl⟩
      have hmember := hreads member List.mem_cons_self
      have hname := hnul member List.mem_cons_self
      have htabs : ∀ char ∈ (if format then List.replicate depth '\t' else []),
          char.toNat ≤ 32 :=
        blank_of_format (blank_replicate_tab depth)
      have hnewline : ∀ char ∈ (if format then ['\n'] else []),
          char.toNat ≤ 32 :=
        blank_of_format (by simp)
      cases fuel with
      | zero => simp at hfuel
      | succ fuel =>
          rw [nestingMembers]
          cases members with
          | nil =>
              rw [printMembers, Option.some.injEq] at hmore
              subst hmore
              have htail : NoNumberChar
                  ((if format then ['\n'] else []) ++ closing) := by
                cases format with
                | true => exact noNumberChar_cons (by decide) closing
                | false => exact hstop
              have hfirst : skipWhitespace input =
                  printStringPtr member.1 ++
                    ':' :: ((if format then ['\t'] else []) ++ text ++
                      ((if format then ['\n'] else []) ++ closing)) := by
                rw [hinput]
                simp only [List.append_assoc, List.isEmpty_nil, if_true,
                  List.nil_append, List.cons_append]
                rw [skipWhitespace_append htabs]
                exact skipWhitespace_cons_of_lt (by decide) _
              rw [parseMembers_brace hname hmember htext htail hfirst (by
                rw [skipWhitespace_append hnewline, hclosing])]
              simp only [nestingMembers, Nat.max_zero]
              split_ifs
              · rfl
              · rfl
          | cons second members =>
              have hfirst : skipWhitespace input =
                  printStringPtr member.1 ++
                    ':' :: ((if format then ['\t'] else []) ++ text ++
                      (',' :: ((if format then ['\n'] else []) ++ more ++
                        closing))) := by
                rw [hinput]
                simp only [List.append_assoc, List.isEmpty_cons,
                  Bool.false_eq_true, if_false, List.cons_append,
                  List.nil_append]
                rw [skipWhitespace_append htabs]
                exact skipWhitespace_cons_of_lt (by decide) _
              have hrec := @ih more
                (fun other hother =>
                  hreads other (List.mem_cons_of_mem _ hother))
                (fun other hother =>
                  hnul other (List.mem_cons_of_mem _ hother))
                (by simp) hmore fuel (by simpa using hfuel)
                ((if format then ['\n'] else []) ++ more ++ closing) (by
                  rw [List.append_assoc, skipWhitespace_append hnewline])
              rw [parseMembers_comma hname hmember htext
                (noNumberChar_cons (by decide) _) hfirst
                (skipWhitespace_cons_of_lt (by decide) _), hrec]
              by_cases hhead : member.2.nesting ≤ below
              · rw [if_pos hhead]
                by_cases hothers : nestingMembers (second :: members) ≤ below
                · rw [if_pos hothers, if_pos (max_le hhead hothers)]
                  rfl
                · rw [if_neg hothers, if_neg (fun hall =>
                    hothers (le_trans (le_max_right _ _) hall))]
                  rfl
              · rw [if_neg hhead, if_neg (fun hall =>
                  hhead (le_trans (le_max_left _ _) hall))]

theorem parseValue_number (nearest : ℚ → ℚ) (budget : ℕ) {first : Char}
    (hfirst : first = '-' ∨ first.isDigit = true) (rest : CString) :
    parseValue nearest budget (first :: rest) =
      parseNumber nearest (first :: rest) := by
  have hne : ∀ other : Char, other ≠ '-' → other.isDigit = false →
      other ≠ first := by
    rintro other hminus hdigit rfl
    rcases hfirst with heq | heq
    · exact hminus heq
    · rw [hdigit] at heq
      cases heq
  have hn : ('n' == first) = false := by
    simpa using hne 'n' (by decide) (by decide)
  have hf : ('f' == first) = false := by
    simpa using hne 'f' (by decide) (by decide)
  have ht : ('t' == first) = false := by
    simpa using hne 't' (by decide) (by decide)
  have hquote : first ≠ '"' := (hne '"' (by decide) (by decide)).symm
  unfold parseValue
  simp only [String.reduceToList, List.isPrefixOf, hn, hf, ht,
    Bool.false_and, Bool.false_eq_true, if_false, if_neg hquote,
    if_pos hfirst]

theorem parseValue_string (nearest : ℚ → ℚ) (budget : ℕ) (rest : CString) :
    parseValue nearest budget ('"' :: rest) =
      (parseString ('"' :: rest)).map fun parsed =>
        (.string parsed.1, parsed.2) := by
  unfold parseValue
  simp [List.isPrefixOf]

theorem parseValue_array_zero (nearest : ℚ → ℚ) (rest : CString) :
    parseValue nearest 0 ('[' :: rest) = none := by
  unfold parseValue
  simp [List.isPrefixOf]

theorem parseValue_array (nearest : ℚ → ℚ) (below : ℕ) (rest : CString) :
    parseValue nearest (below + 1) ('[' :: rest) =
      parseArray (parseValue nearest below) rest := by
  unfold parseValue
  simp [List.isPrefixOf]

theorem parseValue_object_zero (nearest : ℚ → ℚ) (rest : CString) :
    parseValue nearest 0 ('\x7b' :: rest) = none := by
  unfold parseValue
  simp [List.isPrefixOf]

theorem parseValue_object (nearest : ℚ → ℚ) (below : ℕ) (rest : CString) :
    parseValue nearest (below + 1) ('\x7b' :: rest) =
      parseObject (parseValue nearest below) rest := by
  unfold parseValue
  simp [List.isPrefixOf]

theorem nulFree_of_mem_elements {items : List BscJson}
    (hnul : NulFreeElements items) : ∀ item ∈ items, NulFree item := by
  induction items with
  | nil => simp
  | cons first rest ih =>
      intro item hitem
      rcases List.mem_cons.mp hitem with rfl | hrest
      · exact hnul.1
      · exact ih hnul.2 item hrest

theorem nulFree_of_mem_members {members : List (CString × BscJson)}
    (hnul : NulFreeMembers members) :
    ∀ member ∈ members, '\x00' ∉ member.1 ∧ NulFree member.2 := by
  induction members with
  | nil => simp
  | cons first rest ih =>
      intro member hmember
      rcases List.mem_cons.mp hmember with rfl | hrest
      · exact hnul.1
      · exact ih hnul.2 member hrest

theorem startsVisible_of_printElements
    {items : List BscJson} {body : CString} (hne : items ≠ [])
    (hprint : printElements format depth items = some body) :
    StartsVisible body := by
  cases items with
  | nil => exact absurd rfl hne
  | cons item rest =>
      simp only [printElements, Option.bind_eq_bind, Option.bind_eq_some_iff,
        Option.pure_def, Option.some.injEq] at hprint
      rcases hprint with ⟨text, htext, more, -, rfl⟩
      rcases startsVisible_of_printValue htext with
        ⟨first, tail, rfl, hvisible⟩
      rw [List.append_assoc]
      exact ⟨first, _, rfl, hvisible⟩

/-- A text that is no closed array goes to the loop. -/
theorem parseArray_of_visible {first : Char} {more : CString}
    (hvisible : 32 < first.toNat) (hbracket : first ≠ ']') :
    parseArray value (first :: more) =
      (parseElements value (more.length + 2) (first :: more)).map
        fun parsed => (.array parsed.1, parsed.2) := by
  rw [parseArray, skipWhitespace_cons_of_lt hvisible]
  split
  · next heq =>
      cases heq
      exact absurd rfl hbracket
  · rfl

theorem parseArray_printElements
    {items : List BscJson} {body : CString}
    (hreads : ∀ item ∈ items,
      ReadsPrinted nearest value format depth below item)
    (hprint : printElements format depth items = some body)
    (rest : CString) :
    parseArray value (body ++ ']' :: rest) =
      if nestingElements items ≤ below then
        some ((BscJson.array items).reparsed nearest, rest)
      else none := by
  by_cases hne : items = []
  · subst hne
    rw [printElements, Option.some.injEq] at hprint
    subst hprint
    rw [List.nil_append, parseArray, skipWhitespace_cons_of_lt (by decide),
      nestingElements, if_pos (Nat.zero_le _)]
    rfl
  · have hlength := length_le_of_printElements hprint
    rcases startsVisible_of_printElements hne hprint with
      ⟨first, more, rfl, hvisible, hbracket, -⟩
    have hfuel : items.length ≤ (more ++ ']' :: rest).length + 2 := by
      simp only [List.length_append, List.length_cons] at hlength ⊢
      omega
    have hinput : skipWhitespace (first :: (more ++ ']' :: rest)) =
        (first :: more) ++ ']' :: rest :=
      skipWhitespace_cons_of_lt hvisible _
    have hloop := parseElements_printElements hreads hne hprint hfuel hinput
    rw [List.cons_append, parseArray_of_visible hvisible hbracket, hloop]
    split_ifs
    · rfl
    · rfl

/-- What follows an opening brace and its blanks. -/
theorem skipWhitespace_printMembers
    {members : List (CString × BscJson)} {body : CString} (hne : members ≠ [])
    (hprint : printMembers format depth members = some body)
    (closing : CString) :
    ∃ more, skipWhitespace (body ++ closing) = '"' :: more ∧
      members.length ≤ more.length + 2 := by
  cases members with
  | nil => exact absurd rfl hne
  | cons member rest =>
      simp only [printMembers, Option.bind_eq_bind, Option.bind_eq_some_iff,
        Option.pure_def, Option.some.injEq] at hprint
      rcases hprint with ⟨text, -, others, hothers, rfl⟩
      have hlength := length_le_of_printMembers hothers
      have htabs : ∀ char ∈ (if format then List.replicate depth '\t' else []),
          char.toNat ≤ 32 :=
        blank_of_format (blank_replicate_tab depth)
      simp only [printStringPtr, List.append_assoc, List.cons_append]
      rw [skipWhitespace_append htabs]
      refine ⟨_, skipWhitespace_cons_of_lt (by decide) _, ?_⟩
      simp only [List.length_cons, List.length_append]
      omega

theorem parseObject_of_quote {text more : CString}
    (hquote : skipWhitespace text = '"' :: more) :
    parseObject value text =
      (parseMembers value (more.length + 2) ('"' :: more)).map
        fun parsed => (.object parsed.1, parsed.2) := by
  rw [parseObject, hquote]
  split
  · next heq => cases heq
  · rfl

theorem parseObject_printMembers
    {members : List (CString × BscJson)} {body : CString}
    (hreads : ∀ member ∈ members,
      ReadsPrinted nearest value format depth below member.2)
    (hnul : ∀ member ∈ members, '\x00' ∉ member.1)
    (hprint : printMembers format depth members = some body)
    {opening closing rest : CString}
    (hopening : ∀ char ∈ opening, char.toNat ≤ 32)
    (hclosing : skipWhitespace closing = '\x7d' :: rest)
    (hstop : NoNumberChar closing) :
    parseObject value (opening ++ (body ++ closing)) =
      if nestingMembers members ≤ below then
        some ((BscJson.object members).reparsed nearest, rest)
      else none := by
  by_cases hne : members = []
  · subst hne
    rw [printMembers, Option.some.injEq] at hprint
    subst hprint
    rw [parseObject, skipWhitespace_append hopening, List.nil_append,
      hclosing, nestingMembers, if_pos (Nat.zero_le _)]
    rfl
  · rcases skipWhitespace_printMembers hne hprint closing with
      ⟨more, hmore, hlength⟩
    have hquote : skipWhitespace (opening ++ (body ++ closing)) =
        '"' :: more := by
      rw [skipWhitespace_append hopening, hmore]
    have hinput : skipWhitespace ('"' :: more) =
        skipWhitespace (body ++ closing) := by
      rw [hmore]
      exact skipWhitespace_cons_of_lt (by decide) more
    have hloop := parseMembers_printMembers hreads hnul hne hprint hclosing
      hstop hlength hinput
    rw [parseObject_of_quote hquote, hloop]
    split_ifs
    · rfl
    · rfl

/-- The values that hold no others. -/
theorem parseValue_printLeaf
    (nearest : ℚ → ℚ) (format : Bool) (budget : ℕ)
    {depth : ℕ} {json : BscJson} {text rest : CString}
    (hleaf : json.nesting = 0) (hnul : json.NulFree)
    (hprint : printValue format depth json = some text)
    (hstop : ∀ value, json = .number value → NoNumberChar rest) :
    parseValue nearest budget (text ++ rest) =
      some (json.reparsed nearest, rest) := by
  cases json with
  | null =>
      rw [printValue, Option.some.injEq] at hprint
      subst hprint
      unfold parseValue
      simp [List.isPrefixOf, reparsed, mapNumbers]
  | bool value =>
      cases value with
      | true =>
          rw [printValue, Option.some.injEq] at hprint
          subst hprint
          unfold parseValue
          simp [List.isPrefixOf, reparsed, mapNumbers]
      | false =>
          rw [printValue, Option.some.injEq] at hprint
          subst hprint
          unfold parseValue
          simp [List.isPrefixOf, reparsed, mapNumbers]
  | number value =>
      rw [printValue] at hprint
      have hparse := parseNumber_printNumber nearest hprint (hstop value rfl)
      rcases printNumber_eq_text hprint with ⟨decimal, hformed, rfl, -⟩
      rcases Decimal.startsVisible hformed with ⟨first, more, htext, hfirst⟩
      rw [htext, List.cons_append] at hparse ⊢
      rw [parseValue_number nearest budget hfirst]
      exact hparse
  | string value =>
      rw [printValue, Option.some.injEq] at hprint
      subst hprint
      have hparse := parseString_printStringPtr hnul rest
      change parseValue nearest budget ('"' :: _) = _
      rw [parseValue_string]
      change (parseString (printStringPtr value ++ rest)).map _ = _
      rw [hparse]
      rfl
  | array items => rw [nesting] at hleaf; cases hleaf
  | object members => rw [nesting] at hleaf; cases hleaf

/-- A printed value is read back as far as the nesting limit allows, whatever
follows it; only a number must not go on. -/
theorem parseValue_printValue
    (nearest : ℚ → ℚ) (format : Bool) (budget : ℕ) :
    ∀ {depth : ℕ} {json : BscJson} {text rest : CString},
      json.NulFree → printValue format depth json = some text →
      (∀ value, json = .number value → NoNumberChar rest) →
      parseValue nearest budget (text ++ rest) =
        if json.nesting ≤ budget then some (json.reparsed nearest, rest)
        else none := by
  induction budget with
  | zero =>
      intro depth json text rest hnul hprint hstop
      by_cases hleaf : json.nesting = 0
      · rw [if_pos (le_of_eq hleaf)]
        exact parseValue_printLeaf nearest format 0 hleaf hnul hprint hstop
      · rw [if_neg (by omega)]
        cases json with
        | array items =>
            rw [printValue, Option.map_eq_some_iff] at hprint
            rcases hprint with ⟨body, -, rfl⟩
            exact parseValue_array_zero nearest _
        | object members =>
            rw [printValue, Option.map_eq_some_iff] at hprint
            rcases hprint with ⟨body, -, rfl⟩
            exact parseValue_object_zero nearest _
        | null => exact absurd rfl hleaf
        | bool value => exact absurd rfl hleaf
        | number value => exact absurd rfl hleaf
        | string value => exact absurd rfl hleaf
  | succ below ih =>
      intro depth json text rest hnul hprint hstop
      have hbelow : ∀ {inner : ℕ} {own : BscJson}, own.NulFree →
          ReadsPrinted nearest (parseValue nearest below) format inner below
            own := by
        intro inner own hown other tail hother htail
        exact ih hown hother (fun _ _ => htail)
      by_cases hleaf : json.nesting = 0
      · rw [if_pos (by omega)]
        exact parseValue_printLeaf nearest format (below + 1) hleaf hnul
          hprint hstop
      · cases json with
        | array items =>
            rw [printValue, Option.map_eq_some_iff] at hprint
            rcases hprint with ⟨body, hbody, rfl⟩
            have hitems := nulFree_of_mem_elements hnul
            have harray := parseArray_printElements
              (fun item hitem => hbelow (hitems item hitem)) hbody rest
            simp only [List.cons_append, List.append_assoc, List.nil_append]
            rw [parseValue_array]
            rw [harray, nesting]
            simp only [Nat.add_le_add_iff_right]
        | object members =>
            rw [printValue, Option.map_eq_some_iff] at hprint
            rcases hprint with ⟨body, hbody, rfl⟩
            have hmembers := nulFree_of_mem_members hnul
            have hopening : ∀ char ∈ (if format then ['\n'] else []),
                char.toNat ≤ 32 := blank_of_format (by simp)
            have htabs : ∀ char ∈
                (if format then List.replicate depth '\t' else []),
                char.toNat ≤ 32 := blank_of_format (blank_replicate_tab depth)
            have hclosing : skipWhitespace
                ((if format then List.replicate depth '\t' else []) ++
                  '\x7d' :: rest) = '\x7d' :: rest := by
              rw [skipWhitespace_append htabs]
              exact skipWhitespace_cons_of_lt (by decide) rest
            have hend : NoNumberChar
                ((if format then List.replicate depth '\t' else []) ++
                  '\x7d' :: rest) := by
              cases format with
              | true =>
                  cases depth with
                  | zero => exact noNumberChar_cons (by decide) rest
                  | succ depth => exact noNumberChar_cons (by decide) _
              | false => exact noNumberChar_cons (by decide) rest
            have hobject := parseObject_printMembers
              (fun member hmember => hbelow (hmembers member hmember).2)
              (fun member hmember => (hmembers member hmember).1) hbody
              hopening hclosing hend
            simp only [List.cons_append, List.append_assoc, List.nil_append]
            rw [parseValue_object]
            rw [hobject, nesting]
            simp only [Nat.add_le_add_iff_right]
        | null => exact absurd rfl hleaf
        | bool value => exact absurd rfl hleaf
        | number value => exact absurd rfl hleaf
        | string value => exact absurd rfl hleaf

/-! ## Documents -/

theorem skipUtf8Bom_of_startsVisible {text : CString}
    (hstarts : StartsVisible text) (rest : CString) :
    skipUtf8Bom (text ++ rest) = text ++ rest := by
  rcases hstarts with ⟨first, more, rfl, -, -, hascii⟩
  have hfirst : ('\xEF' == first) = false := by
    rw [beq_eq_false_iff_ne]
    rintro rfl
    exact absurd hascii (by decide)
  rw [skipUtf8Bom, if_neg]
  rintro ⟨-, hbom⟩
  simp [List.isPrefixOf, hfirst] at hbom

theorem parse_of_startsVisible (nearest : ℚ → ℚ) {text : CString}
    (hstarts : StartsVisible text) (rest : CString) :
    parse nearest (text ++ rest) =
      (parseValue nearest nestingLimit (text ++ rest)).map Prod.fst := by
  rw [parse, skipUtf8Bom_of_startsVisible hstarts, hstarts.skipWhitespace]

/-- A printed tree, with nothing behind its text. -/
theorem parse_of_printValue (nearest : ℚ → ℚ) {format : Bool}
    {json : BscJson} {text : CString} (hnul : json.NulFree)
    (hprint : printValue format 0 json = some text) :
    parse nearest text =
      if json.nesting ≤ nestingLimit then some (json.reparsed nearest)
      else none := by
  have hstop : ∀ value, json = .number value → NoNumberChar [] := by
    simp [NoNumberChar]
  have hparse := parse_of_startsVisible nearest
    (startsVisible_of_printValue hprint) []
  rw [parseValue_printValue nearest format nestingLimit hnul hprint hstop,
    List.append_nil] at hparse
  rw [hparse]
  split_ifs
  · rfl
  · rfl

/-- A tree of C strings with at most this many containers in each other. -/
structure Held (below : ℕ) (json : BscJson) : Prop where
  nulFree : json.NulFree
  nesting : json.nesting ≤ below

theorem held_array_iff {below : ℕ} {items : List BscJson} :
    Held (below + 1) (.array items) ↔ ∀ item ∈ items, Held below item := by
  induction items with
  | nil =>
      simp only [List.not_mem_nil, false_imp_iff, implies_true, iff_true]
      exact ⟨trivial, Nat.succ_le_succ (Nat.zero_le _)⟩
  | cons item rest ih =>
      rw [List.forall_mem_cons, ← ih]
      constructor
      · rintro ⟨hnul, hnesting⟩
        rw [BscJson.nesting, nestingElements] at hnesting
        exact ⟨⟨hnul.1, by omega⟩, hnul.2, by rw [BscJson.nesting]; omega⟩
      · rintro ⟨hitem, hrest⟩
        have hnesting := hrest.nesting
        have hown := hitem.nesting
        rw [BscJson.nesting] at hnesting
        exact ⟨⟨hitem.nulFree, hrest.nulFree⟩, by
          rw [BscJson.nesting, nestingElements]; omega⟩

theorem held_object_iff {below : ℕ} {members : List (CString × BscJson)} :
    Held (below + 1) (.object members) ↔
      ∀ member ∈ members, '\x00' ∉ member.1 ∧ Held below member.2 := by
  induction members with
  | nil =>
      simp only [List.not_mem_nil, false_imp_iff, implies_true, iff_true]
      exact ⟨trivial, Nat.succ_le_succ (Nat.zero_le _)⟩
  | cons member rest ih =>
      rw [List.forall_mem_cons, ← ih]
      constructor
      · rintro ⟨hnul, hnesting⟩
        rw [BscJson.nesting, nestingMembers] at hnesting
        exact ⟨⟨hnul.1.1, hnul.1.2, by omega⟩, hnul.2, by
          rw [BscJson.nesting]; omega⟩
      · rintro ⟨⟨hname, hitem⟩, hrest⟩
        have hnesting := hrest.nesting
        have hown := hitem.nesting
        rw [BscJson.nesting] at hnesting
        exact ⟨⟨⟨hname, hitem.nulFree⟩, hrest.nulFree⟩, by
          rw [BscJson.nesting, nestingMembers]; omega⟩

theorem Held.mono {below above : ℕ} {json : BscJson} (hheld : Held below json)
    (hle : below ≤ above) : Held above json :=
  ⟨hheld.nulFree, le_trans hheld.nesting hle⟩

theorem parseString_nulFree {text bytes rest : CString}
    (hparse : parseString text = some (bytes, rest)) : '\x00' ∉ bytes := by
  unfold parseString at hparse
  split at hparse
  · next more =>
      simp only [Option.bind_eq_bind, Option.bind_eq_some_iff] at hparse
      rcases hparse with ⟨scanned, -, hwritten⟩
      split_ifs at hwritten
      have hbytes := (Prod.mk.inj (Option.some.inj hwritten)).1
      intro hmem
      rw [← hbytes] at hmem
      simpa using List.mem_takeWhile_imp hmem
  · cases hparse

theorem parseElements_held {value : CString → Option (BscJson × CString)}
    {below : ℕ} (hvalue : ∀ text json rest,
      value text = some (json, rest) → Held below json) (fuel : ℕ) :
    ∀ {text : CString} {items : List BscJson} {rest : CString},
      parseElements value fuel text = some (items, rest) →
        ∀ item ∈ items, Held below item := by
  induction fuel with
  | zero =>
      intro text items rest hparse
      cases hparse
  | succ fuel ih =>
      intro text items rest hparse
      simp only [parseElements, Option.bind_eq_bind,
        Option.bind_eq_some_iff] at hparse
      rcases hparse with ⟨⟨first, left⟩, hfirst, hrest⟩
      have hheld := hvalue _ _ _ hfirst
      split at hrest
      · rw [Option.bind_eq_some_iff] at hrest
        rcases hrest with ⟨⟨others, last⟩, hothers, hpair⟩
        cases hpair
        exact List.forall_mem_cons.mpr ⟨hheld, ih hothers⟩
      · cases hrest
        exact List.forall_mem_singleton.mpr hheld
      · cases hrest

theorem parseMembers_held {value : CString → Option (BscJson × CString)}
    {below : ℕ} (hvalue : ∀ text json rest,
      value text = some (json, rest) → Held below json) (fuel : ℕ) :
    ∀ {text : CString} {members : List (CString × BscJson)} {rest : CString},
      parseMembers value fuel text = some (members, rest) →
        ∀ member ∈ members, '\x00' ∉ member.1 ∧ Held below member.2 := by
  induction fuel with
  | zero =>
      intro text members rest hparse
      cases hparse
  | succ fuel ih =>
      intro text members rest hparse
      simp only [parseMembers, Option.bind_eq_bind,
        Option.bind_eq_some_iff] at hparse
      rcases hparse with ⟨⟨name, afterName⟩, hname, hrest⟩
      have hnul := parseString_nulFree hname
      split at hrest
      · rw [Option.bind_eq_some_iff] at hrest
        rcases hrest with ⟨⟨item, left⟩, hitem, hrest⟩
        have hheld := hvalue _ _ _ hitem
        split at hrest
        · rw [Option.bind_eq_some_iff] at hrest
          rcases hrest with ⟨⟨others, last⟩, hothers, hpair⟩
          cases hpair
          exact List.forall_mem_cons.mpr ⟨⟨hnul, hheld⟩, ih hothers⟩
        · cases hrest
          exact List.forall_mem_singleton.mpr ⟨hnul, hheld⟩
        · cases hrest
      · cases hrest

theorem parseArray_held {value : CString → Option (BscJson × CString)}
    {below : ℕ} (hvalue : ∀ text json rest,
      value text = some (json, rest) → Held below json)
    {text rest : CString} {json : BscJson}
    (hparse : parseArray value text = some (json, rest)) :
    Held (below + 1) json := by
  unfold parseArray at hparse
  split at hparse
  · cases hparse
    exact held_array_iff.mpr (by simp)
  · rcases Option.map_eq_some_iff.mp hparse with ⟨⟨items, last⟩, hitems, hpair⟩
    cases hpair
    exact held_array_iff.mpr (parseElements_held hvalue _ hitems)

theorem parseObject_held {value : CString → Option (BscJson × CString)}
    {below : ℕ} (hvalue : ∀ text json rest,
      value text = some (json, rest) → Held below json)
    {text rest : CString} {json : BscJson}
    (hparse : parseObject value text = some (json, rest)) :
    Held (below + 1) json := by
  unfold parseObject at hparse
  split at hparse
  · cases hparse
    exact held_object_iff.mpr (by simp)
  · rcases Option.map_eq_some_iff.mp hparse with
      ⟨⟨members, last⟩, hmembers, hpair⟩
    cases hpair
    exact held_object_iff.mpr (parseMembers_held hvalue _ hmembers)

theorem parseNumber_held {nearest : ℚ → ℚ} {text rest : CString}
    {json : BscJson} (hparse : parseNumber nearest text = some (json, rest))
    (below : ℕ) : Held below json := by
  rcases Option.map_eq_some_iff.mp hparse with ⟨parsed, -, hpair⟩
  cases hpair
  exact ⟨trivial, Nat.zero_le _⟩

/-- Every tree that the parser returns stays within the budget. -/
theorem parseValue_held (nearest : ℚ → ℚ) (budget : ℕ) :
    ∀ (text : CString) (json : BscJson) (rest : CString),
      parseValue nearest budget text = some (json, rest) →
        Held budget json := by
  induction budget with
  | zero =>
      intro text json rest hparse
      unfold parseValue at hparse
      split_ifs at hparse
      · cases hparse
        exact ⟨trivial, Nat.zero_le _⟩
      · cases hparse
        exact ⟨trivial, Nat.zero_le _⟩
      · cases hparse
        exact ⟨trivial, Nat.zero_le _⟩
      · split at hparse
        · cases hparse
        · split_ifs at hparse
          · rcases Option.map_eq_some_iff.mp hparse with
              ⟨⟨bytes, last⟩, hstring, hpair⟩
            cases hpair
            exact ⟨parseString_nulFree hstring, Nat.zero_le _⟩
          · exact parseNumber_held hparse 0
  | succ below ih =>
      intro text json rest hparse
      unfold parseValue at hparse
      split_ifs at hparse
      · cases hparse
        exact ⟨trivial, Nat.zero_le _⟩
      · cases hparse
        exact ⟨trivial, Nat.zero_le _⟩
      · cases hparse
        exact ⟨trivial, Nat.zero_le _⟩
      · split at hparse
        · cases hparse
        · split_ifs at hparse
          · rcases Option.map_eq_some_iff.mp hparse with
              ⟨⟨bytes, last⟩, hstring, hpair⟩
            cases hpair
            exact ⟨parseString_nulFree hstring, Nat.zero_le _⟩
          · exact parseNumber_held hparse _
          · exact parseArray_held ih hparse
          · exact parseObject_held ih hparse

theorem parse_held {nearest : ℚ → ℚ} {text : CString} {json : BscJson}
    (hparse : parse nearest text = some json) : Held nestingLimit json := by
  rcases Option.map_eq_some_iff.mp hparse with ⟨⟨found, rest⟩, hfound, rfl⟩
  exact parseValue_held nearest nestingLimit _ _ _ hfound

mutual

theorem nesting_mapNumbers (f : ℚ → ℚ) :
    (json : BscJson) → (json.mapNumbers f).nesting = json.nesting
  | .null => rfl
  | .bool _ => rfl
  | .number _ => rfl
  | .string _ => rfl
  | .array items => by
      rw [mapNumbers, nesting, nesting, nestingElements_mapNumbers f items]
  | .object members => by
      rw [mapNumbers, nesting, nesting, nestingMembers_mapNumbers f members]

theorem nestingElements_mapNumbers (f : ℚ → ℚ) :
    (items : List BscJson) →
      nestingElements (mapNumbersElements f items) = nestingElements items
  | [] => rfl
  | item :: rest => by
      rw [mapNumbersElements, nestingElements, nestingElements,
        nesting_mapNumbers f item, nestingElements_mapNumbers f rest]

theorem nestingMembers_mapNumbers (f : ℚ → ℚ) :
    (members : List (CString × BscJson)) →
      nestingMembers (mapNumbersMembers f members) = nestingMembers members
  | [] => rfl
  | member :: rest => by
      rw [mapNumbersMembers, nestingMembers, nestingMembers,
        nesting_mapNumbers f member.2, nestingMembers_mapNumbers f rest]

end

mutual

theorem nulFree_mapNumbers (f : ℚ → ℚ) :
    (json : BscJson) → ((json.mapNumbers f).NulFree ↔ json.NulFree)
  | .null => Iff.rfl
  | .bool _ => Iff.rfl
  | .number _ => Iff.rfl
  | .string _ => Iff.rfl
  | .array items => by
      rw [mapNumbers, NulFree, NulFree, nulFreeElements_mapNumbers f items]
  | .object members => by
      rw [mapNumbers, NulFree, NulFree, nulFreeMembers_mapNumbers f members]

theorem nulFreeElements_mapNumbers (f : ℚ → ℚ) :
    (items : List BscJson) →
      (NulFreeElements (mapNumbersElements f items) ↔ NulFreeElements items)
  | [] => Iff.rfl
  | item :: rest => by
      rw [mapNumbersElements, NulFreeElements, NulFreeElements,
        nulFree_mapNumbers f item, nulFreeElements_mapNumbers f rest]

theorem nulFreeMembers_mapNumbers (f : ℚ → ℚ) :
    (members : List (CString × BscJson)) →
      (NulFreeMembers (mapNumbersMembers f members) ↔ NulFreeMembers members)
  | [] => Iff.rfl
  | member :: rest => by
      rw [mapNumbersMembers, NulFreeMembers, NulFreeMembers,
        nulFree_mapNumbers f member.2, nulFreeMembers_mapNumbers f rest]

end

theorem Held.reparsed {below : ℕ} {json : BscJson} (hheld : Held below json)
    (nearest : ℚ → ℚ) : Held below (json.reparsed nearest) where
  nulFree := (nulFree_mapNumbers _ json).mpr hheld.nulFree
  nesting := le_of_eq_of_le (nesting_mapNumbers _ json) hheld.nesting

end BscJson
