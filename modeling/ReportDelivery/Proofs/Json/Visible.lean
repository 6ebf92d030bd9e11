import ReportDelivery.Proofs.Json.Form
import ReportDelivery.Proofs.Json.String
import ReportDelivery.Proofs.Outcome
import ReportDelivery.Proofs.Text.Blank
import ReportDelivery.Proofs.Text.Digits

/-! The code points of printed text.

Numbers, keywords and punctuation are printable ASCII, and so is the escape of a control character.
What else a printed document holds comes from its strings and keys, and of their code points beyond
ASCII it holds every one (`shows_print`). So there is no control character in it and no line end, and
reading it as text with line ends of any kind changes nothing. -/
namespace ReportDelivery

/-! ### Classes of text -/

namespace Text

/-- Nothing below U+0020. -/
def Visible (t : Text) : Prop := ∀ c ∈ t, 0x20 ≤ c.toNat

instance (t : Text) : Decidable (Visible t) :=
  inferInstanceAs (Decidable (∀ c ∈ t, 0x20 ≤ c.toNat))

/-- Without control characters there is no line end to change. -/
theorem Visible.unifyLineEnds {t : Text} (h : Visible t) : t.unifyLineEnds = t := by
  induction t with
  | nil => rfl
  | cons c t ih =>
    have hc := h c List.mem_cons_self
    have hreturn : c ≠ .char '\r' := by
      rintro rfl
      exact absurd hc (by decide)
    have htail := ih fun d hd => h d (List.mem_cons_of_mem _ hd)
    rw [Text.unifyLineEnds, htail]
    · intro rest heq
      exact absurd heq hreturn
    · exact hreturn

/-- ASCII without the control characters below U+0020. -/
def Ascii (t : Text) : Prop := ∀ c ∈ t, 0x20 ≤ c.toNat ∧ c.toNat < 0x80

instance (t : Text) : Decidable (Ascii t) :=
  inferInstanceAs (Decidable (∀ c ∈ t, 0x20 ≤ c.toNat ∧ c.toNat < 0x80))

theorem ascii_nil : Ascii [] := List.forall_mem_nil _

theorem Ascii.append {s t : Text} (hs : Ascii s) (ht : Ascii t) : Ascii (s ++ t) := by
  intro c hc
  rcases List.mem_append.1 hc with h | h
  · exact hs c h
  · exact ht c h

theorem Ascii.take {t : Text} (h : Ascii t) (n : Nat) : Ascii (t.take n) :=
  fun c hc => h c (List.mem_of_mem_take hc)

theorem Ascii.drop {t : Text} (h : Ascii t) (n : Nat) : Ascii (t.drop n) :=
  fun c hc => h c (List.mem_of_mem_drop hc)

theorem IsDigits.ascii {t : Text} (h : IsDigits t) : Ascii t := by
  intro c hc
  have hdigit := h c hc
  cases c with
  | surrogate i => cases hdigit
  | char c =>
    simp only [CodePoint.isDigit, CodePoint.digit?] at hdigit
    split at hdigit
    · next hrange =>
      have hlow := UInt32.le_iff_toNat_le.1 hrange.1
      have hhigh := UInt32.le_iff_toNat_le.1 hrange.2
      change 48 ≤ c.toNat at hlow
      change c.toNat ≤ 57 at hhigh
      change 0x20 ≤ c.toNat ∧ c.toNat < 0x80
      omega
    · cases hdigit

/-- What printing makes of something whose code points are those of `holds`: no control characters,
and of the code points beyond ASCII exactly these. -/
structure Shows (t : Text) (holds : CodePoint → Prop) : Prop where
  visible : Visible t
  beyond : ∀ c, 0x80 ≤ c.toNat → (c ∈ t ↔ holds c)

section
variable {s t : Text} {holds more : CodePoint → Prop}

theorem Ascii.not_mem (h : Ascii t) {c : CodePoint} (hc : 0x80 ≤ c.toNat) : c ∉ t :=
  fun hmem => Nat.not_lt.2 hc (h c hmem).2

theorem Ascii.shows (h : Ascii t) (hnone : ∀ c, 0x80 ≤ c.toNat → ¬ holds c) : Shows t holds where
  visible c hc := (h c hc).1
  beyond c hc := iff_of_false (h.not_mem hc) (hnone c hc)

theorem Shows.congr (h : Shows t holds) (hiff : ∀ c, 0x80 ≤ c.toNat → (holds c ↔ more c)) :
    Shows t more :=
  ⟨h.visible, fun c hc => (h.beyond c hc).trans (hiff c hc)⟩

theorem Shows.append (hs : Shows s holds) (ht : Shows t more) :
    Shows (s ++ t) fun c => holds c ∨ more c where
  visible := List.forall_mem_append.2 ⟨hs.visible, ht.visible⟩
  beyond c hc := by rw [List.mem_append, hs.beyond c hc, ht.beyond c hc]

theorem Shows.enclosed {opening closing : Text} (ho : Ascii opening) (h : Shows t holds)
    (hc : Ascii closing) : Shows (opening ++ t ++ closing) holds where
  visible := by
    refine List.forall_mem_append.2 ⟨List.forall_mem_append.2 ⟨?_, h.visible⟩, ?_⟩
    · exact fun c hmem => (ho c hmem).1
    · exact fun c hmem => (hc c hmem).1
  beyond c hbeyond := by
    rw [List.mem_append, List.mem_append, h.beyond c hbeyond]
    simp only [ho.not_mem hbeyond, hc.not_mem hbeyond, false_or, or_false]

/-- Parts that are shown one by one are shown together. -/
theorem shows_join {α : Type} {separator : Text} (hs : Ascii separator)
    {holds : α → CodePoint → Prop} {items : List α} {parts : List Text}
    (h : List.Forall₂ (fun item part => Shows part (holds item)) items parts) :
    Shows (join separator parts) fun c => ∃ item ∈ items, holds item c := by
  induction h with
  | nil => exact ascii_nil.shows (by simp)
  | @cons item part items parts hpart hparts ih =>
    simp only [List.mem_cons, exists_eq_or_imp]
    cases hparts with
    | nil =>
      refine hpart.congr fun c _ => ?_
      simp
    | cons hpart' hparts' =>
      have hmore := Shows.append hpart (ih.enclosed hs ascii_nil)
      rw [List.append_nil, ← List.append_assoc] at hmore
      exact hmore

end

end Text

/-! ### Code points of values -/

namespace Value

/-- One of the strings or keys anywhere in the value has the code point. -/
inductive Holds (c : CodePoint) : Value → Prop
  | str {t : Text} (h : c ∈ t) : Holds c (.str t)
  | item {items : List Value} {v : Value} (hv : v ∈ items) (h : Holds c v) : Holds c (.list items)
  | component {items : List Value} {v : Value} (hv : v ∈ items) (h : Holds c v) :
      Holds c (.tuple items)
  | key {members : Members} {member : Value × Value} (hmember : member ∈ members)
      (h : Holds c member.1) : Holds c (.object members)
  | value {members : Members} {member : Value × Value} (hmember : member ∈ members)
      (h : Holds c member.2) : Holds c (.object members)

variable {c : CodePoint}

/-- There is a lone surrogate in a string or a key. -/
def HoldsSurrogate (v : Value) : Prop := ∃ i, v.Holds (.surrogate i)

theorem holds_str {t : Text} : (Value.str t).Holds c ↔ c ∈ t :=
  ⟨by rintro ⟨h⟩; exact h, .str⟩

theorem holds_list {items : List Value} : (Value.list items).Holds c ↔ ∃ v ∈ items, v.Holds c := by
  constructor
  · intro h
    cases h with
    | item hv h => exact ⟨_, hv, h⟩
  · rintro ⟨v, hv, h⟩
    exact .item hv h

theorem holds_tuple {items : List Value} :
    (Value.tuple items).Holds c ↔ ∃ v ∈ items, v.Holds c := by
  constructor
  · intro h
    cases h with
    | component hv h => exact ⟨_, hv, h⟩
  · rintro ⟨v, hv, h⟩
    exact .component hv h

theorem holds_object {members : Members} : (Value.object members).Holds c ↔
    ∃ member ∈ members, member.1.Holds c ∨ member.2.Holds c := by
  constructor
  · intro h
    cases h with
    | key hmember h => exact ⟨_, hmember, .inl h⟩
    | value hmember h => exact ⟨_, hmember, .inr h⟩
  · rintro ⟨member, hmember, h | h⟩
    · exact .key hmember h
    · exact .value hmember h

end Value

/-! ### Printed values -/

namespace Json
open Text Binary64

theorem ascii_ofInt (i : Int) : Ascii (ofInt i) := by
  cases i with
  | ofNat n => exact (isDigits_ofNat n).ascii
  | negSucc n => exact Ascii.append (s := [.char '-']) (by decide) (isDigits_ofNat (n + 1)).ascii

theorem ascii_zeros (n : Nat) : Ascii (zeros n) := (isDigits_replicate n).ascii

theorem ascii_layOut {digits : Text} (hd : Ascii digits) (exponent : Int) :
    Ascii (layOut digits exponent) := by
  have hpoint (n : Nat) : Ascii (join (ofString ".") [digits.take n, digits.drop n]) :=
    ((hd.take n).append (by decide)).append (hd.drop n)
  unfold layOut
  split
  · exact ((show Ascii (ofString "0.") by decide).append (ascii_zeros _)).append hd
  · split
    · dsimp only
      split
      · exact (hd.append (ascii_zeros _)).append (by decide)
      · exact hpoint _
    · refine ((Ascii.append ?_ ?_).append (ascii_zeros _)).append (isDigits_ofNat _).ascii
      · split
        · exact hd
        · exact hpoint 1
      · split <;> decide

theorem ascii_layout (d : Decimal) : Ascii d.layout := by
  unfold Decimal.layout
  refine ascii_layOut ?_ _
  split
  · decide
  · intro c hc
    exact (isDigits_ofNat d.digits).ascii c (mem_of_mem_trimEnd hc)

theorem ascii_printFloat (x : Binary64) : Ascii (printFloat x) := by
  cases x with
  | nan => decide
  | infinity negative => cases negative <;> decide
  | finite negative k hk =>
    have hmagnitude : Ascii (if k = 0 then ofString "0.0" else (shortest k).layout) := by
      split
      · decide
      · exact ascii_layout _
    cases negative with
    | false =>
      rw [printFloat, finiteText, if_neg Bool.false_ne_true]
      exact hmagnitude
    | true =>
      rw [printFloat, finiteText, if_pos rfl]
      exact Ascii.append (by decide) hmagnitude

theorem ascii_printBool (b : Bool) : Ascii (printBool b) := by
  cases b <;> decide

/-- A code point is escaped in ASCII or stands for itself. -/
theorem shows_escape (c : CodePoint) : Shows (escape c) (· = c) := by
  have hescaped {t : Text} (h : Ascii t) (hc : c.toNat < 0x80) : Shows t (· = c) := by
    refine h.shows ?_
    rintro _ hbeyond rfl
    exact Nat.not_lt.2 hbeyond hc
  unfold escape
  split
  iterate 7 exact hescaped (by decide) (by decide)
  split
  · next hc =>
    refine hescaped ?_ (Nat.lt_trans hc (by decide))
    rw [ofHex_control _ hc]
    revert hc
    generalize c.toNat = n
    revert n
    decide
  · next hc =>
    refine ⟨?_, fun d _ => List.mem_singleton⟩
    rintro d hd
    rw [List.mem_singleton.1 hd]
    exact Nat.not_lt.1 hc

theorem shows_printString (t : Text) : Shows (printString t) (· ∈ t) := by
  have hbody : Shows (t.flatMap escape) (· ∈ t) := by
    refine ⟨fun c hc => ?_, fun c hc => ?_⟩
    · obtain ⟨d, -, hd⟩ := List.mem_flatMap.1 hc
      exact (shows_escape d).visible c hd
    · rw [List.mem_flatMap]
      simp only [(shows_escape _).beyond c hc, exists_eq_right']
  exact .enclosed (show Ascii [.char '"'] by decide) hbody (by decide)

theorem shows_printKey {key : Value} {text : Text} (h : printKey key = .ok text) :
    Shows text key.Holds := by
  have hname {t : Text} (ht : Ascii t) (hnone : ∀ c, ¬ key.Holds c) :
      Shows (printString t) key.Holds :=
    (shows_printString t).congr fun c hc => iff_of_false (ht.not_mem hc) (hnone c)
  cases key with
  | str t =>
    cases h
    exact (shows_printString t).congr fun c _ => Value.holds_str.symm
  | null =>
    cases h
    exact hname (by decide) nofun
  | bool b =>
    cases h
    exact hname (ascii_printBool b) nofun
  | int i =>
    obtain ⟨_, hi, rfl⟩ := map_ok.1 h
    rw [(printInt_ok.1 hi).2]
    exact hname (ascii_ofInt i) nofun
  | float x =>
    cases h
    exact hname (ascii_printFloat x) nofun
  | _ => cases h

theorem shows_items {α : Type} {opening closing : Text} (ho : Ascii opening) (hc : Ascii closing)
    {holds : α → CodePoint → Prop} {items : List α} {texts : List Text}
    (h : List.Forall₂ (fun item text => Shows text (holds item)) items texts) :
    Shows (opening ++ join ", " texts ++ closing) fun c => ∃ item ∈ items, holds item c :=
  (shows_join (by decide) h).enclosed ho hc

mutual
/-- The text of a value shows the code points of its strings and keys. -/
theorem shows_print : ∀ (v : Value) {text : Text}, print v = .ok text → Shows text v.Holds
  | .null, text, h => by
    cases h
    exact Ascii.shows (by decide) nofun
  | .bool b, text, h => by
    cases h
    exact (ascii_printBool b).shows nofun
  | .int i, text, h => by
    rw [print, printInt_ok] at h
    rw [h.2]
    exact (ascii_ofInt i).shows nofun
  | .float x, text, h => by
    cases h
    exact (ascii_printFloat x).shows nofun
  | .str t, text, h => by
    cases h
    exact (shows_printString t).congr fun c _ => Value.holds_str.symm
  | .list items, text, h => by
    rw [print] at h
    obtain ⟨texts, htexts, ⟨⟩⟩ := bind_ok.1 h
    have hitems := shows_printAll items htexts
    exact (shows_items (by decide) (by decide) hitems).congr fun c _ => Value.holds_list.symm
  | .tuple items, text, h => by
    rw [print] at h
    obtain ⟨texts, htexts, ⟨⟩⟩ := bind_ok.1 h
    have hitems := shows_printAll items htexts
    exact (shows_items (by decide) (by decide) hitems).congr fun c _ => Value.holds_tuple.symm
  | .object members, text, h => by
    rw [print] at h
    obtain ⟨texts, htexts, ⟨⟩⟩ := bind_ok.1 h
    have hmembers := shows_printMembers members htexts
    exact (shows_items (by decide) (by decide) hmembers).congr fun c _ => Value.holds_object.symm
  | .set _, _, h | .ignoreMeta _, _, h | .finding _, _, h | .ignored _ _, _, h | .wire _, _, h
  | .dataflow _, _, h | .wrapped _ _, _, h => by cases h

theorem shows_printAll : ∀ (items : List Value) {texts : List Text},
    printAll items = .ok texts → List.Forall₂ (fun v text => Shows text v.Holds) items texts
  | [], texts, h => by
    cases h
    exact .nil
  | item :: items, texts, h => by
    rw [printAll] at h
    obtain ⟨text, htext, h⟩ := bind_ok.1 h
    obtain ⟨others, hothers, ⟨⟩⟩ := bind_ok.1 h
    exact .cons (shows_print item htext) (shows_printAll items hothers)

theorem shows_printMembers : ∀ (members : List (Value × Value)) {texts : List Text},
    printMembers members = .ok texts →
      List.Forall₂ (fun member text => Shows text fun c => member.1.Holds c ∨ member.2.Holds c)
        members texts
  | [], texts, h => by
    cases h
    exact .nil
  | (key, v) :: members, texts, h => by
    rw [printMembers] at h
    obtain ⟨keyText, hkey, h⟩ := bind_ok.1 h
    obtain ⟨text, htext, h⟩ := bind_ok.1 h
    obtain ⟨others, hothers, ⟨⟩⟩ := bind_ok.1 h
    refine .cons (Shows.append ?_ (shows_print v htext)) (shows_printMembers members hothers)
    exact .enclosed ascii_nil (shows_printKey hkey) (by decide)
end

/-- Printing neither escapes a lone surrogate nor brings one in. -/
theorem surrogate_mem_print {v : Value} {text : Text} (h : print v = .ok text) :
    (∃ i, .surrogate i ∈ text) ↔ v.HoldsSurrogate := by
  refine exists_congr fun i => (shows_print v h).beyond _ ?_
  change 0x80 ≤ 0xD800 + i.val
  omega

/-- Whatever is printed, the text holds no control character. -/
theorem visible_print (v : Value) {text : Text} (h : print v = .ok text) : Visible text :=
  (shows_print v h).visible

end Json
end ReportDelivery
