import ReportDelivery.Proofs.Json.Form
import ReportDelivery.Proofs.Json.Number
import ReportDelivery.Proofs.Json.String

/-! Printed values read back.

`Reads text v` says that `text` stands for `v` wherever a value may stand. It holds of every word,
number and string as printed; a list is read element by element, and an object member by member,
each of which is stored with the earlier ones.

`read_printed`: whatever is printed, reading the text gives the form of the value. `read_print`: a
JSON value is printed, and reading the text gives the value back. -/
namespace ReportDelivery.Json

/-! ### The start of a value -/

/-- A code point that a value may start with: nothing that is skipped before a value, and not the
end of a container. -/
structure Opens (c : CodePoint) : Prop where
  noBlank : isBlank c = false
  noBracket : c ≠ .char ']'
  noBrace : c ≠ .char '\x7d'
  noMark : c ≠ .char '\uFEFF'

/-- What is read without looking for brackets and quotes starts with one of these. -/
def opensWord (c : CodePoint) : Bool :=
  c.isDigit || c ∈ [.char 'n', .char 't', .char 'f', .char 'N', .char 'I', .char '-']

theorem opens_of_opensWord {c : CodePoint} (h : opensWord c = true) : Opens c := by
  have hne (d : Char) (hd : opensWord (.char d) = false) : c ≠ .char d := by
    rintro rfl
    rw [hd] at h
    cases h
  refine ⟨?_, hne ']' (by decide), hne '\x7d' (by decide), hne '\uFEFF' (by decide)⟩
  cases c with
  | surrogate i => rfl
  | char d =>
    by_contra hblank
    obtain ⟨hspace, htab, hfeed, hreturn⟩ : d ≠ ' ' ∧ d ≠ '\t' ∧ d ≠ '\n' ∧ d ≠ '\r' := by
      refine ⟨?_, ?_, ?_, ?_⟩ <;> (rintro rfl; exact absurd h (by decide))
    exact hblank (by simp [isBlank, hspace, htab, hfeed, hreturn])

theorem starts_of_word {t rest : Text} {v : Value} (h : word t = .ok (v, rest)) :
    ∃ c more, t = c :: more ∧ opensWord c = true := by
  cases t with
  | nil => cases h
  | cons c more =>
    refine ⟨c, more, rfl, ?_⟩
    by_contra hword
    obtain ⟨hdigit, hn, ht, hf, hN, hI, hminus⟩ : c.isDigit = false ∧ c ≠ .char 'n' ∧
        c ≠ .char 't' ∧ c ≠ .char 'f' ∧ c ≠ .char 'N' ∧ c ≠ .char 'I' ∧ c ≠ .char '-' := by
      simpa [opensWord] using hword
    have hnumber : number (c :: more) = unsignedNumber false (c :: more) (c :: more) := by
      unfold number
      split
      · next heq =>
        cases heq
        exact absurd rfl hminus
      · rfl
    have hread : word (c :: more) = number (c :: more) := by
      simp [word, after?, Text.ofString, hn.symm, ht.symm, hf.symm, hN.symm, hI.symm, hminus.symm]
    rw [hread, hnumber] at h
    obtain ⟨d, _, heq, hd⟩ := starts_of_unsignedNumber h
    cases heq
    rw [hdigit] at hd
    cases hd

theorem value_of_opensWord {c : CodePoint} (h : opensWord c = true) (fuel : Nat) (more : Text) :
    value (fuel + 1) (c :: more) = word (c :: more) := by
  unfold value
  split
  · next heq =>
    cases heq
    exact absurd h (by decide)
  · next heq =>
    cases heq
    exact absurd h (by decide)
  · next heq =>
    cases heq
    exact absurd h (by decide)
  · rfl

theorem Opens.skipBlank {c : CodePoint} (h : Opens c) (more : Text) :
    skipBlank (c :: more) = c :: more := by
  rw [Json.skipBlank, List.dropWhile_cons_of_neg]
  rw [h.noBlank]
  exact Bool.false_ne_true

/-! ### Texts that stand for a value -/

/-- Wherever the text stands for a value, it is read as this one. -/
structure Reads (text : Text) (v : Value) : Prop where
  opens : ∃ c more, text = c :: more ∧ Opens c
  read : ∀ {fuel : Nat} {rest : Text}, text.length ≤ fuel → Follows rest →
    value fuel (text ++ rest) = .ok (v, rest)

theorem Reads.skipBlank {text : Text} {v : Value} (h : Reads text v) (rest : Text) :
    skipBlank (text ++ rest) = text ++ rest := by
  obtain ⟨c, more, rfl, hc⟩ := h.opens
  exact hc.skipBlank _

theorem reads_of_word {text : Text} {v : Value}
    (h : ∀ rest, Follows rest → word (text ++ rest) = .ok (v, rest)) : Reads text v := by
  have halone := h [] follows_nil
  rw [List.append_nil] at halone
  obtain ⟨c, more, rfl, hc⟩ := starts_of_word halone
  refine ⟨⟨c, more, rfl, opens_of_opensWord hc⟩, ?_⟩
  intro fuel rest hfuel hrest
  cases fuel with
  | zero => cases hfuel
  | succ fuel =>
    rw [List.cons_append, value_of_opensWord hc, ← List.cons_append]
    exact h rest hrest

theorem reads_null : Reads "null" .null :=
  reads_of_word fun rest _ => by simp [word, after?, Text.ofString]

theorem reads_bool (b : Bool) : Reads (printBool b) (.bool b) :=
  reads_of_word fun rest _ => by cases b <;> simp [printBool, word, after?, Text.ofString]

theorem reads_int {i : Int} (h : Readable i) : Reads (.ofInt i) (.int i) :=
  reads_of_word fun _ => word_ofInt h

theorem reads_float (x : Binary64) : Reads (printFloat x) (.float x) :=
  reads_of_word fun _ => word_printFloat x

theorem opens_quote : Opens (.char '"') := ⟨rfl, nofun, nofun, nofun⟩

theorem opens_bracket : Opens (.char '[') := ⟨rfl, nofun, nofun, nofun⟩

theorem opens_brace : Opens (.char '\x7b') := ⟨rfl, nofun, nofun, nofun⟩

/-- Behind its opening quote a printed string is read as the string. -/
theorem string_tail (t rest : Text) :
    string (t.flatMap escape ++ [.char '"'] ++ rest) = .ok (t, rest) := by
  rw [List.append_assoc, List.singleton_append, string_printed]

theorem reads_str (t : Text) : Reads (printString t) (.str t) := by
  refine ⟨⟨_, _, rfl, opens_quote⟩, ?_⟩
  intro fuel rest hfuel hrest
  cases fuel with
  | zero => cases hfuel
  | succ fuel =>
    rw [printString, List.cons_append, List.cons_append, value, string_tail]
    rfl

/-! ### Items with commas between them -/

theorem join_append (text text' : Text) (texts : List Text) (rest : Text) :
    Text.join ", " (text :: text' :: texts) ++ rest =
      text ++ .char ',' :: .char ' ' :: (Text.join ", " (text' :: texts) ++ rest) := by
  simp [Text.join, Text.ofString]

theorem length_join (text text' : Text) (texts : List Text) :
    (Text.join ", " (text :: text' :: texts)).length =
      text.length + 2 + (Text.join ", " (text' :: texts)).length := by
  simp [Text.join, Text.ofString]
  omega

/-- Joined items start as the first one does. -/
theorem join_opens {text : Text} {texts : List Text} (h : ∃ c more, text = c :: more ∧ Opens c)
    (rest : Text) : ∃ c more, Text.join ", " (text :: texts) ++ rest = c :: more ∧ Opens c := by
  obtain ⟨c, more, rfl, hc⟩ := h
  cases texts with
  | nil => exact ⟨c, more ++ rest, rfl, hc⟩
  | cons text texts =>
    rw [join_append]
    exact ⟨c, _, List.cons_append, hc⟩

theorem skipBlank_of_opens {t : Text} (h : ∃ c more, t = c :: more ∧ Opens c) : skipBlank t = t := by
  obtain ⟨c, more, rfl, hc⟩ := h
  exact hc.skipBlank more

theorem skipBlank_space (t : Text) : skipBlank (.char ' ' :: t) = skipBlank t := rfl

/-! ### Lists -/

theorem elements_join {texts : List Text} {items : List Value}
    (h : List.Forall₂ Reads texts items) (hne : texts ≠ []) (done : List Value) {fuel : Nat}
    (hfuel : (Text.join ", " texts).length < fuel) (rest : Text) :
    elements fuel done (Text.join ", " texts ++ .char ']' :: rest) =
      .ok (.list (done.reverse ++ items), rest) := by
  induction h generalizing done fuel with
  | nil => exact absurd rfl hne
  | @cons text v texts items hv hrest ih =>
    cases fuel with
    | zero => cases hfuel
    | succ fuel =>
      cases hrest with
      | nil =>
        rw [Text.join] at hfuel ⊢
        rw [elements, hv.read (by omega) (follows_bracket rest)]
        show Except.ok (Value.list (v :: done).reverse, rest) = _
        rw [List.reverse_cons]
      | @cons text' v' texts items hv' hrest =>
        rw [length_join] at hfuel
        rw [join_append, elements, hv.read (by omega) (follows_comma _)]
        show elements fuel (v :: done) (skipBlank (.char ' ' :: _)) = _
        rw [skipBlank_space, skipBlank_of_opens (join_opens hv'.opens _),
          ih (by simp) (v :: done) (by omega), List.reverse_cons, List.append_assoc]
        rfl

theorem value_bracket (fuel : Nat) {t : Text} (h : ∃ c more, t = c :: more ∧ Opens c) :
    value (fuel + 1) (.char '[' :: t) = elements fuel [] t := by
  have hskip := skipBlank_of_opens h
  obtain ⟨c, more, rfl, hc⟩ := h
  rw [value, hskip]
  split
  · next heq =>
    cases heq
    exact absurd rfl hc.noBracket
  · rfl

/-- A printed list, its elements in order. -/
theorem reads_list {texts : List Text} {items : List Value}
    (h : List.Forall₂ Reads texts items) :
    Reads ("[" ++ Text.join ", " texts ++ "]") (.list items) := by
  have htext : Text.ofString "[" ++ Text.join ", " texts ++ Text.ofString "]" =
      .char '[' :: (Text.join ", " texts ++ [.char ']']) := by
    simp [Text.ofString]
  rw [htext]
  refine ⟨⟨.char '[', _, rfl, opens_bracket⟩, ?_⟩
  intro fuel rest hfuel hrest
  rw [List.cons_append, List.append_assoc, List.singleton_append]
  cases fuel with
  | zero => cases hfuel
  | succ fuel =>
    cases h with
    | nil => rfl
    | @cons text v texts items hv h =>
      rw [value_bracket fuel (join_opens hv.opens _),
        elements_join (.cons hv h) (List.cons_ne_nil _ _) [] ?_ rest]
      · rfl
      · rw [List.length_cons, List.length_append, List.length_singleton] at hfuel
        omega

/-! ### Objects -/

/-- A member's text: its name as a string, and a text that stands for its value. -/
def ReadsMember (text : Text) (member : Value × Value) : Prop :=
  ∃ name valueText, member.1 = .str name ∧ Reads valueText member.2 ∧
    text = printString name ++ ": " ++ valueText

theorem ReadsMember.opens {text : Text} {member : Value × Value} (h : ReadsMember text member) :
    ∃ c more, text = c :: more ∧ Opens c := by
  obtain ⟨name, valueText, -, -, rfl⟩ := h
  exact ⟨.char '"', _, rfl, opens_quote⟩

/-- One member is read and stored, and what follows it decides how to go on. -/
theorem members_member {name valueText : Text} {v : Value} (hv : Reads valueText v) {fuel : Nat}
    (hfuel : valueText.length ≤ fuel) (done : Members) {tail : Text} (htail : Follows tail) :
    members (fuel + 1) done (printString name ++ ": " ++ valueText ++ tail) =
      match skipBlank tail with
      | .char '\x7d' :: rest => .ok (.object (Members.insert (.str name) v done), rest)
      | .char ',' :: rest => members fuel (Members.insert (.str name) v done) (skipBlank rest)
      | rest => stop .commaExpected rest := by
  have htext : printString name ++ Text.ofString ": " ++ valueText ++ tail =
      .char '"' :: (name.flatMap escape ++ [.char '"'] ++
        .char ':' :: .char ' ' :: (valueText ++ tail)) := by
    simp [printString, Text.ofString]
  rw [htext, members, string_tail]
  show (value fuel (skipBlank (.char ' ' :: (valueText ++ tail))) >>= _) = _
  rw [skipBlank_space, hv.skipBlank, hv.read hfuel htail]
  rfl

theorem members_join {texts : List Text} {items : Members}
    (h : List.Forall₂ ReadsMember texts items) (hne : texts ≠ []) (done : Members) {fuel : Nat}
    (hfuel : (Text.join ", " texts).length < fuel) (rest : Text) :
    members fuel done (Text.join ", " texts ++ .char '\x7d' :: rest) =
      .ok (.object (Members.store done items), rest) := by
  induction h generalizing done fuel with
  | nil => exact absurd rfl hne
  | @cons text member texts items hmember hrest ih =>
    cases fuel with
    | zero => cases hfuel
    | succ fuel =>
      obtain ⟨name, v⟩ := member
      obtain ⟨name, valueText, rfl, hv, rfl⟩ := hmember
      have hlength : valueText.length ≤
          (printString name ++ Text.ofString ": " ++ valueText).length := by
        simp only [List.length_append]
        omega
      cases hrest with
      | nil =>
        rw [Text.join] at hfuel ⊢
        rw [members_member hv (by omega) done (follows_brace rest)]
        rfl
      | @cons text' v' texts items hv' hrest =>
        rw [length_join] at hfuel
        rw [join_append, members_member hv (by omega) done (follows_comma _)]
        show members fuel _ (skipBlank (.char ' ' :: _)) = _
        rw [skipBlank_space, skipBlank_of_opens (join_opens hv'.opens _),
          ih (List.cons_ne_nil _ _) _ (by omega)]
        rfl

theorem value_brace (fuel : Nat) {t : Text} (h : ∃ c more, t = c :: more ∧ Opens c) :
    value (fuel + 1) (.char '\x7b' :: t) = members fuel [] t := by
  have hskip := skipBlank_of_opens h
  obtain ⟨c, more, rfl, hc⟩ := h
  rw [value, hskip]
  split
  · next heq =>
    cases heq
    exact absurd rfl hc.noBrace
  · rfl

/-- A printed object, its members stored in order. -/
theorem reads_object {texts : List Text} {items : Members}
    (h : List.Forall₂ ReadsMember texts items) :
    Reads ("\x7b" ++ Text.join ", " texts ++ "\x7d") (.object (Members.store [] items)) := by
  have htext : Text.ofString "\x7b" ++ Text.join ", " texts ++ Text.ofString "\x7d" =
      .char '\x7b' :: (Text.join ", " texts ++ [.char '\x7d']) := by
    simp [Text.ofString]
  rw [htext]
  refine ⟨⟨.char '\x7b', _, rfl, opens_brace⟩, ?_⟩
  intro fuel rest hfuel hrest
  rw [List.cons_append, List.append_assoc, List.singleton_append]
  cases fuel with
  | zero => cases hfuel
  | succ fuel =>
    cases h with
    | nil => rfl
    | @cons text member texts items hmember h =>
      rw [value_brace fuel (join_opens hmember.opens _),
        members_join (.cons hmember h) (List.cons_ne_nil _ _) [] ?_ rest]
      · rw [List.length_cons, List.length_append, List.length_singleton] at hfuel
        omega

/-! ### Printing -/

mutual
/-- A printed text stands for the form of the value. -/
theorem reads_print : ∀ (v : Value) {text : Text}, print v = .ok text → Reads text (form v)
  | .null, text, h => by
    cases h
    exact reads_null
  | .bool b, text, h => by
    cases h
    exact reads_bool b
  | .int i, text, h => by
    rw [print, printInt_ok] at h
    rw [h.2]
    exact reads_int h.1
  | .float x, text, h => by
    cases h
    exact reads_float x
  | .str t, text, h => by
    cases h
    exact reads_str t
  | .list items, text, h => by
    rw [print] at h
    obtain ⟨texts, htexts, ⟨⟩⟩ := bind_ok.1 h
    exact reads_list (reads_printAll items htexts)
  | .tuple items, text, h => by
    rw [print] at h
    obtain ⟨texts, htexts, ⟨⟩⟩ := bind_ok.1 h
    exact reads_list (reads_printAll items htexts)
  | .object members, text, h => by
    rw [print] at h
    obtain ⟨texts, htexts, ⟨⟩⟩ := bind_ok.1 h
    exact reads_object (reads_printMembers members htexts)
  | .set _, _, h | .ignoreMeta _, _, h | .finding _, _, h | .ignored _ _, _, h | .wire _, _, h
  | .dataflow _, _, h | .wrapped _ _, _, h => by cases h

theorem reads_printAll : ∀ (items : List Value) {texts : List Text},
    printAll items = .ok texts → List.Forall₂ Reads texts (formAll items)
  | [], texts, h => by
    cases h
    exact .nil
  | item :: items, texts, h => by
    rw [printAll] at h
    obtain ⟨text, htext, h⟩ := bind_ok.1 h
    obtain ⟨others, hothers, ⟨⟩⟩ := bind_ok.1 h
    exact .cons (reads_print item htext) (reads_printAll items hothers)

theorem reads_printMembers : ∀ (members : List (Value × Value)) {texts : List Text},
    printMembers members = .ok texts → List.Forall₂ ReadsMember texts (formMembers members)
  | [], texts, h => by
    cases h
    exact .nil
  | (key, v) :: members, texts, h => by
    rw [printMembers] at h
    obtain ⟨keyText, hkey, h⟩ := bind_ok.1 h
    obtain ⟨text, htext, h⟩ := bind_ok.1 h
    obtain ⟨others, hothers, ⟨⟩⟩ := bind_ok.1 h
    rw [printKey_ok hkey]
    exact .cons ⟨keyName key, text, rfl, reads_print v htext, rfl⟩
      (reads_printMembers members hothers)
end

theorem Reads.document {text : Text} {v : Value} (h : Reads text v) :
    document text = .ok v := by
  obtain ⟨c, more, hstart, hc⟩ := h.opens
  have hmark : text.head? ≠ some (.char '\uFEFF') := by
    rw [hstart]
    intro heq
    exact hc.noMark (Option.some.inj heq)
  have hskip : Json.skipBlank text = text ++ [] := by
    rw [List.append_nil, skipBlank_of_opens h.opens]
  have hfuel : text.length ≤ fuelFor text := by
    rw [fuelFor]
    omega
  rw [Json.document, if_neg hmark, hskip, h.read hfuel follows_nil]
  rfl

/-- Reading what was printed gives the form of the value. -/
theorem read_printed {v : Value} {text : Text} (h : print v = .ok text) :
    read text = .ok (form v) := by
  rw [read, (reads_print v h).document]
  rfl

/-- **Printing and reading.** A JSON value is printed, and reading the text gives the value. -/
theorem read_print {v : Value} (h : v.IsJson) :
    ∃ text, print v = .ok text ∧ read text = .ok v := by
  obtain ⟨text, hprint⟩ := printable_isJson h
  have hread := read_printed hprint
  rw [form_isJson h] at hread
  exact ⟨text, hprint, hread⟩

end ReportDelivery.Json
