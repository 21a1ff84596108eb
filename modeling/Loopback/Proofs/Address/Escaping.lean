import Loopback.Proofs.Address.Asking
import Loopback.Proofs.Text.Utf8
import Mathlib.Data.List.Forall2

/-!
# Escaped text

A text can be escaped for a query in many ways: each character stands for itself, or its octets are written
as escapes with digits of either case, or it is a space and a plus sign stands for it. Whatever was chosen for
each character, decoding gives the text back. Plus signs are read before escapes, which is why `%2B` can stand
for one, and no character but `%` has an octet that could be taken for the beginning of an escape.
-/

namespace Loopback

namespace Text.Percent

/-- The hexadecimal digits in rising order, with capital letters. -/
def capitalDigits : List Char := "0123456789ABCDEF".toList

/-- The hexadecimal digits in rising order, with small letters. -/
def smallDigits : List Char := "0123456789abcdef".toList

/-- A hexadecimal digit, of either case, for a value. -/
def WritesDigit (value : Nat) (digit : Char) : Prop :=
  capitalDigits[value]? = some digit ∨ smallDigits[value]? = some digit

instance (value : Nat) (digit : Char) : Decidable (WritesDigit value digit) :=
  inferInstanceAs (Decidable (_ ∨ _))

/-- An escape for an octet. -/
inductive WritesOctet (octet : UInt8) : List Char → Prop where
  | escape {high low : Char} (hhigh : WritesDigit (octet.toNat / 16) high)
      (hlow : WritesDigit (octet.toNat % 16) low) : WritesOctet octet ['%', high, low]

/-- Something is written for each element of a list in turn. -/
inductive WritesEach {α : Type} (writes : α → List Char → Prop) : List α → List Char → Prop where
  | nil : WritesEach writes [] []
  | cons {a : α} {rest : List α} {first written : List Char} (hfirst : writes a first)
      (hrest : WritesEach writes rest written) : WritesEach writes (a :: rest) (first ++ written)

/-- What may stand for a character: itself, the escapes of its octets, or a plus sign for a space. -/
inductive WritesChar (c : Char) : List Char → Prop where
  | kept (hmark : c ≠ '%') (hplus : c ≠ '+') : WritesChar c [c]
  | escaped {written : List Char} (h : WritesEach WritesOctet (String.utf8EncodeChar c) written) :
      WritesChar c written
  | space (h : c = ' ') : WritesChar c ['+']

/-- A text and one of its escaped forms. -/
abbrev Encodes : List Char → List Char → Prop := WritesEach WritesChar

/-- What a sequence of characters stands for once its plus signs are read, as octets. -/
def octets (written : List Char) : List UInt8 := Utf8.encode (written.map plusToSpace)

/-- A text is written in octets as its parts are. -/
theorem octets_append (written rest : List Char) :
    octets (written ++ rest) = octets written ++ octets rest := by
  simp [octets]

variable {c : Char} {text written : List Char}

/-- A digit is one octet, which is read as its value, and it is no plus sign. -/
theorem WritesDigit.octet {value : Nat} {digit : Char} (h : WritesDigit value digit) :
    plusToSpace digit = digit ∧
      ∃ octet, String.utf8EncodeChar digit = [octet] ∧ hexValue? octet = some (UInt8.ofNat value) := by
  have hvalue : value < 16 := by
    rcases h with h | h <;> exact (List.getElem?_eq_some_iff.1 h).1
  interval_cases value <;> rcases h with h | h <;> cases h <;> exact ⟨rfl, _, rfl, rfl⟩

/-- Reading an escape gives the octet it was written for. -/
theorem WritesOctet.unescape {octet : UInt8} (h : WritesOctet octet written) (rest : List UInt8) :
    unescape (octets written ++ rest) = octet :: unescape rest := by
  cases h with
  | @escape high low hhigh hlow =>
    obtain ⟨hplus, first, hfirst, hvalue⟩ := hhigh.octet
    obtain ⟨hplus', second, hsecond, hvalue'⟩ := hlow.octet
    have hoctets : octets ['%', high, low] = [mark, first, second] := by
      simp only [octets, List.map_cons, List.map_nil, hplus, hplus', Utf8.encode_cons, hfirst, hsecond]
      rfl
    have hoctet : UInt8.ofNat (octet.toNat / 16) * 16 + UInt8.ofNat (octet.toNat % 16) = octet := by
      have hlt := octet.toNat_lt
      apply UInt8.toNat.inj
      simp only [UInt8.toNat_add, UInt8.toNat_mul, UInt8.toNat_ofNat', UInt8.reduceToNat]
      omega
    rw [hoctets]
    simp only [List.cons_append, List.nil_append, Percent.unescape, escaped?, hvalue, hvalue', hoctet, if_true]

/-- Where each part is read as the octets of what it was written for, the whole is. -/
theorem WritesEach.unescape {α : Type} {writes : α → List Char → Prop} {octetsOf : α → List UInt8}
    (hread : ∀ a written, writes a written → ∀ rest,
      unescape (octets written ++ rest) = octetsOf a ++ unescape rest)
    {list : List α} (h : WritesEach writes list written) (rest : List UInt8) :
    Percent.unescape (octets written ++ rest) = list.flatMap octetsOf ++ Percent.unescape rest := by
  induction h with
  | nil => rfl
  | cons hfirst _ ih =>
    rw [octets_append, List.append_assoc, hread _ _ hfirst, ih, List.flatMap_cons, List.append_assoc]

/-- No octet of a character begins an escape, but that of the mark itself. -/
theorem mark_notMem_encodeChar (h : c ≠ '%') : mark ∉ String.utf8EncodeChar c := by
  have hne : c.toNat ≠ 37 := fun hc => h (Char.toNat_inj.1 hc)
  have hbyte : ∀ n, n % 256 ≠ 37 → mark ≠ UInt8.ofNat n := fun n hn heq => hn <| by
    have := congrArg UInt8.toNat heq
    simpa [mark] using this.symm
  unfold String.utf8EncodeChar
  simp only [show c.val.toNat = c.toNat from rfl]
  generalize c.toNat = n at hne
  split_ifs with hone htwo hthree
  all_goals simp only [List.mem_cons, List.not_mem_nil, or_false, not_or]
  · exact hbyte _ (by omega)
  · exact ⟨hbyte _ (by omega), hbyte _ (by omega)⟩
  · exact ⟨hbyte _ (by omega), hbyte _ (by omega), hbyte _ (by omega)⟩
  · exact ⟨hbyte _ (by omega), hbyte _ (by omega), hbyte _ (by omega), hbyte _ (by omega)⟩

/-- Octets among which there is no mark stand for themselves. -/
theorem unescape_append_of_notMem {plain : List UInt8} (h : mark ∉ plain) (rest : List UInt8) :
    unescape (plain ++ rest) = plain ++ unescape rest := by
  induction plain with
  | nil => rfl
  | cons octet plain ih =>
    obtain ⟨hoctet, hplain⟩ := not_or.1 (mt List.mem_cons.2 h)
    rw [List.cons_append, unescape_cons_of_ne (Ne.symm hoctet), ih hplain, List.cons_append]

/-- Whatever stands for a character is read as its octets. -/
theorem WritesChar.unescape (h : WritesChar c written) (rest : List UInt8) :
    Percent.unescape (octets written ++ rest) = String.utf8EncodeChar c ++ Percent.unescape rest := by
  cases h with
  | kept hmark hplus =>
    have hoctets : octets [c] = String.utf8EncodeChar c := by simp [octets, plusToSpace, hplus, Utf8.encode]
    rw [hoctets, unescape_append_of_notMem (mark_notMem_encodeChar hmark)]
  | escaped h =>
    have hoctet : ∀ octet first, WritesOctet octet first → ∀ rest,
        Percent.unescape (octets first ++ rest) = [octet] ++ Percent.unescape rest :=
      fun _ _ hoctet => hoctet.unescape
    rw [h.unescape hoctet rest, List.flatMap_singleton']
  | space h =>
    subst h
    have hspace : mark ∉ octets ['+'] := by decide
    exact unescape_append_of_notMem hspace rest

/-- Decoding gives back the text of any escaped form. -/
theorem decode_of_encodes (h : Encodes text written) : decode written = text := by
  have hoctets : unescape (octets written) = Utf8.encode text := by
    have hread := h.unescape (fun _ _ hchar => hchar.unescape) []
    rwa [List.append_nil, unescape, List.append_nil] at hread
  rw [decode, ← octets, hoctets, Utf8.decodeLossy_encode]

/-- The characters that escapes and plus signs are made of. -/
def escapeMarks : List Char := '%' :: '+' :: (capitalDigits ++ smallDigits)

/-- What is written for each element of a list holds no character that is written for none of them. -/
theorem WritesEach.notMem {α : Type} {writes : α → List Char → Prop} {list : List α}
    (h : WritesEach writes list written) (hnone : ∀ a ∈ list, ∀ first, writes a first → c ∉ first) :
    c ∉ written := by
  induction h with
  | nil => simp
  | cons hfirst _ ih =>
    obtain ⟨hhead, htail⟩ := List.forall_mem_cons.1 hnone
    exact List.mem_append.not.2 (not_or.2 ⟨hhead _ hfirst, ih htail⟩)

/-- A digit is one of the characters that escapes are made of. -/
theorem WritesDigit.mem {value : Nat} {digit : Char} (h : WritesDigit value digit) :
    digit ∈ capitalDigits ++ smallDigits :=
  List.mem_append.2 (h.imp List.mem_of_getElem? List.mem_of_getElem?)

/-- An escaped form holds the characters of the text, and those that escapes are made of. -/
theorem notMem_of_encodes (h : Encodes text written) (htext : c ∉ text) (hmarks : c ∉ escapeMarks) :
    c ∉ written := by
  simp only [escapeMarks, List.mem_cons, not_or] at hmarks
  obtain ⟨hmark, hplus, hdigit⟩ := hmarks
  have hoctet : ∀ octet first, WritesOctet octet first → c ∉ first := by
    intro octet first hfirst
    cases hfirst with
    | escape hhigh hlow =>
      simp only [List.mem_cons, List.not_mem_nil, or_false, not_or]
      exact ⟨hmark, fun hc => hdigit (hc ▸ hhigh.mem), fun hc => hdigit (hc ▸ hlow.mem)⟩
  refine h.notMem fun a ha first hfirst => ?_
  cases hfirst with
  | kept => simpa using fun hc : c = a => htext (hc ▸ ha)
  | escaped h => exact h.notMem fun octet _ => hoctet octet
  | space => simpa using hplus

end Text.Percent

namespace Address

open Text.Percent

/-- A single option whose name and value are escaped forms of `logging` and of the name of a level asks for
that level. -/
theorem parse_escaped {host name value : String} {level : Severity} (hquery : '?' ∉ host.toList)
    (hfragment : '#' ∉ host.toList) (hname : Encodes "logging".toList name.toList)
    (hvalue : Encodes level.name.toList value.toList) :
    parse ("loop:" ++ host ++ "?" ++ name ++ "=" ++ value) = .ok ⟨[.logging level]⟩ := by
  have hfree : ∀ mark : Char, mark ∈ ['#', '&'] → mark ∉ name.toList ++ '=' :: value.toList := by
    intro mark hmark
    have hmarks : mark ∉ escapeMarks ∧ mark ∉ "logging".toList ∧ mark ∉ level.name.toList ∧ mark ≠ '=' := by
      simp only [List.mem_cons, List.not_mem_nil, or_false] at hmark
      rcases hmark with rfl | rfl <;> cases level <;> decide
    obtain ⟨hmarks, hlogging, hlevel, hequals⟩ := hmarks
    simp [notMem_of_encodes hname hlogging hmarks, notMem_of_encodes hvalue hlevel hmarks, hequals]
  have hequals : '=' ∉ name.toList := notMem_of_encodes hname (by decide) (by decide)
  have hoption : nameAndValue (name.toList ++ '=' :: value.toList) = ("logging", level.name) := by
    simp [nameAndValue, Text.cut_append hequals, decode_of_encodes hname, decode_of_encodes hvalue]
  have hsplit : split ("loop:" ++ host ++ "?" ++ name ++ "=" ++ value).toList =
      ("loop".toList, host.toList ++ '?' :: (name.toList ++ '=' :: value.toList)) := by
    have htext : ("loop:" ++ host ++ "?" ++ name ++ "=" ++ value).toList =
        "loop".toList ++ ':' :: (host.toList ++ '?' :: (name.toList ++ '=' :: value.toList)) := by
      simp [String.toList_append]
    rw [split, htext, Text.cut_append (by decide)]
  have hpieces := queryPieces_query hquery hfragment (hfree '#' (by simp)) (hfree '&' (by simp)) (by simp)
  have hscheme : Text.sameLetters "loop".toList scheme.toList = true := by decide
  simp only [parse, hsplit, hscheme, hpieces, readOptions, readOption_logging hoption, if_true]
  rfl

/-- Whatever way a text is escaped for a query, decoding gives it back. So however the name of the option
`logging` and that of a level are escaped, and whatever host stands before them, the address asks for that
level. -/
theorem decoded_whatever_escaped :
    (∀ text written, Encodes text written → decode written = text) ∧
      ∀ (host name value : String) (level : Severity), '?' ∉ host.toList → '#' ∉ host.toList →
        Encodes "logging".toList name.toList → Encodes level.name.toList value.toList →
          ∃ address, parse ("loop:" ++ host ++ "?" ++ name ++ "=" ++ value) = .ok address ∧
            address.options = [.logging level] ∧ address.logging = some level :=
  ⟨fun _ _ => decode_of_encodes, fun _ _ _ _ hquery hfragment hname hvalue =>
    ⟨_, parse_escaped hquery hfragment hname hvalue, rfl, rfl⟩⟩

/-- A character of one octet may be written as its escape. -/
theorem encodes_cons_escape {c high low : Char} {text written : List Char} (octet : UInt8)
    (hoctet : String.utf8EncodeChar c = [octet])
    (hdigits : WritesDigit (octet.toNat / 16) high ∧ WritesDigit (octet.toNat % 16) low)
    (h : Encodes text written) : Encodes (c :: text) ('%' :: high :: low :: written) := by
  have hchar : WritesChar c ['%', high, low] := by
    refine .escaped ?_
    rw [hoctet]
    exact .cons (WritesOctet.escape hdigits.1 hdigits.2) .nil
  exact .cons hchar h

/-- A character may be kept. -/
theorem encodes_cons_self {c : Char} {text written : List Char} (hc : c ≠ '%' ∧ c ≠ '+')
    (h : Encodes text written) : Encodes (c :: text) (c :: written) :=
  .cons (.kept hc.1 hc.2) h

/-- Escapes of either case, a plus for a blank, and an escape that is none are decoded, and do not matter to the
address. -/
theorem decoded_whatever_escaped_mixed :
    decode "é%C3%a9+%2b%25".toList = ['é', 'é', ' ', '+', '%'] ∧
      ∃ address, parse ("loop:" ++ "//h:1&x=y" ++ "?" ++ "l%6Fgg%69n%67" ++ "=" ++ "inf%6f") = .ok address ∧
        address.options = [.logging .info] ∧ address.logging = some .info := by
  have hfirst : WritesOctet 0xc3 "%C3".toList := .escape (by decide) (by decide)
  have hsecond : WritesOctet 0xa9 "%a9".toList := .escape (by decide) (by decide)
  have haccent : WritesChar 'é' "%C3%a9".toList := .escaped (.cons hfirst (.cons hsecond .nil))
  refine ⟨decoded_whatever_escaped.1 _ _ ?_, decoded_whatever_escaped.2 _ _ _ _ (by decide) (by decide) ?_ ?_⟩
  · exact encodes_cons_self (by decide) (.cons haccent (.cons (.space rfl)
      (encodes_cons_escape 0x2b rfl (by decide) (encodes_cons_escape 0x25 rfl (by decide) .nil))))
  · exact encodes_cons_self (by decide) (encodes_cons_escape 0x6f rfl (by decide)
      (encodes_cons_self (by decide) (encodes_cons_self (by decide)
        (encodes_cons_escape 0x69 rfl (by decide) (encodes_cons_self (by decide)
          (encodes_cons_escape 0x67 rfl (by decide) .nil))))))
  · exact encodes_cons_self (by decide) (encodes_cons_self (by decide) (encodes_cons_self (by decide)
      (encodes_cons_escape 0x6f rfl (by decide) .nil)))

end Address

end Loopback
