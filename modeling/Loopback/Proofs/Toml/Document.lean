import Loopback.Config.Writer
import Loopback.Proofs.Toml.Numeral
import Loopback.Proofs.Toml.Quoted
import Loopback.Toml.Document

/-!
# Reading back the lines that are written

A line that sets a key to a value is read as that entry of the current table, where its key is not taken. So
lines that set different keys add their entries in order, and lines after other lines add theirs after those.
-/

namespace Loopback.Toml

/-- A text is read as a value where its line ends, and begins with no blank. -/
structure Writes (written : List Char) (value : Toml) : Prop where
  exists_cons : ∃ c more, written = c :: more ∧ isBlank c = false
  readValue_append : ∀ fuel rest, readValue (fuel + 1) 0 (written ++ '\n' :: rest) = some (value, '\n' :: rest)

/-- A text is written so that it is read back as that string. -/
theorem writes_string (text : List Char) : Writes (writeString text) (.string (String.ofList text)) := by
  obtain ⟨quote, more, hwritten, hquote⟩ := writeString_eq_cons text
  have hread (rest : List Char) : readString (writeString text ++ '\n' :: rest) = some (text, '\n' :: rest) :=
    readString_writeString text (by simp) (by simp)
  refine ⟨⟨quote, more, hwritten, by rcases hquote with rfl | rfl <;> rfl⟩, fun fuel rest => ?_⟩
  have hthis := hread rest
  rw [hwritten, List.cons_append] at hthis ⊢
  rcases hquote with rfl | rfl
  · rw [readValue, hthis]
    rfl
  · rw [readValue, hthis]
    rfl

/-- A number of up to 63 bits is written so that it is read back as that number. -/
theorem writes_number {n : Nat} (hn : n ≤ Text.maxSigned64) : Writes (Nat.toDigits 10 n) (.integer n) := by
  obtain ⟨c, more, hmore, hc⟩ := toDigits_eq_cons n
  refine ⟨⟨c, more, hmore, ?_⟩, fun fuel rest => ?_⟩
  · rw [isBlank, Bool.or_eq_false_iff, beq_eq_false_iff_ne, beq_eq_false_iff_ne]
    constructor <;> rintro rfl <;> cases hc
  · rw [readValue, readNumber_toDigits hn]
    all_goals
      intro _ h
      cases isDigit_of_toDigits_append h

section keys

variable {key : String} {mark : Char} {rest : List Char}

/-- A bare word. -/
def IsWord (key : String) : Prop := key.toList ≠ [] ∧ ∀ c ∈ key.toList, isBareChar c = true

instance (key : String) : Decidable (IsWord key) :=
  decidable_of_iff (key.toList ≠ [] ∧ key.toList.all isBareChar = true) (by rw [IsWord, List.all_eq_true])

/-- The characters that mean something at the start of a line or of a key. -/
def startMarks : List Char := ['\x22', '\x27', ' ', '\t', '\n', '\r', '#', '[']

/-- A word begins with none of the marks. -/
theorem IsWord.exists_cons (hkey : IsWord key) : ∃ c more, key.toList = c :: more ∧ c ∉ startMarks := by
  obtain ⟨c, more, hmore⟩ := List.exists_cons_of_ne_nil hkey.1
  have hbare : isBareChar c = true := hkey.2 c (hmore ▸ List.mem_cons_self)
  refine ⟨c, more, hmore, fun hc => ?_⟩
  simp only [startMarks, List.mem_cons, List.not_mem_nil, or_false] at hc
  rcases hc with rfl | rfl | rfl | rfl | rfl | rfl | rfl | rfl <;> exact absurd hbare (by decide)

/-- What begins with a word does not begin with a mark. -/
theorem IsWord.append_ne {more : List Char} (hkey : IsWord key) (hmark : mark ∈ startMarks) :
    key.toList ++ rest ≠ mark :: more := by
  obtain ⟨c, after, hafter, hc⟩ := hkey.exists_cons
  intro h
  rw [hafter, List.cons_append] at h
  exact hc (List.head_eq_of_cons_eq h ▸ hmark)

/-- Where no blank stands first, none are skipped. -/
theorem skipBlanks_of_not_isBlank {c : Char} (hc : isBlank c = false) : skipBlanks (c :: rest) = c :: rest := by
  rw [skipBlanks, List.dropWhile_cons_of_neg (by simp [hc])]

/-- A word is read as the part of a key up to the mark behind it. -/
theorem readKeyPart_word (hkey : IsWord key) (hmark : isBareChar mark = false) :
    readKeyPart (key.toList ++ mark :: rest) = some (key, mark :: rest) := by
  obtain ⟨c, more, hmore, hc⟩ := hkey.exists_cons
  have hquote : ¬(c = '\x22' ∨ c = '\x27') := by
    rintro (rfl | rfl) <;> simp [startMarks] at hc
  have hmark' : ¬ isBareChar mark = true := by simp [hmark]
  have htaken : (key.toList ++ mark :: rest).takeWhile isBareChar = key.toList := by
    rw [List.takeWhile_append_of_pos hkey.2, List.takeWhile_cons_of_neg hmark', List.append_nil]
  have hleft : (key.toList ++ mark :: rest).dropWhile isBareChar = mark :: rest := by
    rw [List.dropWhile_append_of_pos hkey.2, List.dropWhile_cons_of_neg hmark']
  unfold readKeyPart
  split
  next hnil => simp at hnil
  next d after hcons =>
    rw [hmore, List.cons_append] at hcons
    rw [← List.head_eq_of_cons_eq hcons, if_neg hquote]
    simp only [htaken, hleft, if_neg hkey.1, String.ofList_toList]

/-- A word is read as a key of one part, and the blanks after it are passed. -/
theorem readKey_word (hkey : IsWord key) (hmark : isBareChar mark = false)
    (hdot : (skipBlanks (mark :: rest)).head? ≠ some '.') :
    readKey (key.toList ++ mark :: rest) = some ([], key, skipBlanks (mark :: rest)) := by
  obtain ⟨c, more, hmore, hc⟩ := hkey.exists_cons
  have hstart : skipBlanks (key.toList ++ mark :: rest) = key.toList ++ mark :: rest := by
    rw [hmore, List.cons_append]
    apply skipBlanks_of_not_isBlank
    simp only [startMarks, List.mem_cons, not_or] at hc
    simp [isBlank, hc]
  have hparts : readKeyParts (depthLimit - 1) (key.toList ++ mark :: rest) =
      some ([key], skipBlanks (mark :: rest)) := by
    rw [show depthLimit - 1 = 78 + 1 from rfl, readKeyParts, hstart, readKeyPart_word hkey hmark]
    dsimp only
    split
    next hrest => exact absurd (by rw [hrest, List.head?_cons]) hdot
    next => rfl
  rw [readKey, hparts]
  rfl

end keys

namespace Reading

/-- A document being read, with entries added to its current table. -/
def adding (r : Reading) (entries : List (String × Toml)) : Reading :=
  { r with current :=
      r.current.withEntries (r.current.entries ++ entries.map fun (key, value) => (key, .leaf value)) }

/-- The keys of entries are taken neither by the current table nor twice. -/
def Fresh (r : Reading) (entries : List (String × Toml)) : Prop :=
  r.current.isDotted = false ∧ (r.current.entries.map Prod.fst ++ entries.map Prod.fst).Nodup

variable {r : Reading} {first second : List (String × Toml)} {key : String} {value : Toml}

/-- The entries of the current table are those it had and those that are added. -/
theorem entries_adding : (r.adding first).current.entries =
    r.current.entries ++ first.map fun (key, value) => (key, .leaf value) := rfl

/-- To add nothing changes nothing. -/
theorem adding_nil : r.adding [] = r := by
  obtain ⟨root, ⟨isImplicit, isDotted, entries⟩, place, inArray⟩ := r
  simp [adding, Section.withEntries, Section.entries, Section.isImplicit, Section.isDotted]

/-- To add some entries and then others is to add them all. -/
theorem adding_append : r.adding (first ++ second) = (r.adding first).adding second := by
  simp [adding, Section.withEntries, Section.entries, Section.isImplicit, Section.isDotted]

/-- The keys of the first of fresh entries are not taken. -/
theorem Fresh.left (h : r.Fresh (first ++ second)) : r.Fresh first := by
  refine ⟨h.1, h.2.sublist ?_⟩
  rw [List.map_append]
  exact List.Sublist.append_left (List.sublist_append_left _ _) _

/-- The keys of later entries are not taken by the first ones either. -/
theorem Fresh.right (h : r.Fresh (first ++ second)) : (r.adding first).Fresh second := by
  refine ⟨h.1, ?_⟩
  have hkeys := h.2
  rw [List.map_append, ← List.append_assoc] at hkeys
  simpa [entries_adding, Function.comp_def] using hkeys

/-- A pair whose key is not taken is put at the end of the current table. -/
theorem addPair_of_fresh (h : r.Fresh [(key, value)]) : r.addPair [] key value = some (r.adding [(key, value)]) := by
  have hnew : r.current.get? key = none := by
    have hkeys := List.nodup_append.1 h.2
    rw [Section.get?, List.lookup_eq_none_iff]
    rintro ⟨other, node⟩ hother
    simpa using (hkeys.2.2 other (List.mem_map_of_mem hother) key (by simp)).symm
  simp [addPair, Section.insertValue, Section.modifyAt, Section.addValue, h.1, hnew, Section.set, adding]

end Reading

section lines

/-- A line that begins with a word is not skipped. -/
theorem skipLines_of_word {key : String} {limit : Nat} {rest : List Char} (hkey : IsWord key) :
    skipLines (limit + 1) (key.toList ++ rest) = key.toList ++ rest := by
  obtain ⟨c, more, hmore, hc⟩ := hkey.exists_cons
  simp only [startMarks, List.mem_cons, List.not_mem_nil, or_false, not_or] at hc
  rw [skipLines, hmore, List.cons_append, skipBlanks_of_not_isBlank (by simp [isBlank, hc])]
  simp [hc, newline?]

variable {key : String} {value : Toml} {written : List Char}

/-- Lines add entries to the current table, where their keys are not taken. Each entry takes a character at
least. -/
structure Adds (lines : List Char) (entries : List (String × Toml)) : Prop where
  length_le : entries.length ≤ lines.length
  readLines_append : ∀ fuel r rest, r.Fresh entries →
    readLines (fuel + entries.length) r (lines ++ rest) = readLines fuel (r.adding entries) rest

/-- No lines add nothing. -/
theorem adds_nil : Adds [] [] where
  length_le := Nat.le_refl 0
  readLines_append fuel r rest _ := by rw [Reading.adding_nil, List.length_nil, Nat.add_zero, List.nil_append]

/-- Lines and more lines add what the ones add and then what the others add. -/
theorem adds_append {lines more : List Char} {first second : List (String × Toml)} (hfirst : Adds lines first)
    (hsecond : Adds more second) : Adds (lines ++ more) (first ++ second) where
  length_le := by
    rw [List.length_append, List.length_append]
    exact Nat.add_le_add hfirst.length_le hsecond.length_le
  readLines_append fuel r rest hfresh := by
    rw [List.append_assoc, List.length_append, Nat.add_comm first.length, ← Nat.add_assoc,
      hfirst.readLines_append _ _ _ hfresh.left, hsecond.readLines_append _ _ _ hfresh.right,
      Reading.adding_append]

/-- A mark that is expected and is there is read. -/
theorem expect?_self (mark : Char) (rest : List Char) : expect? mark (mark :: rest) = some rest := by
  rw [expect?, if_pos rfl]

/-- A line that has come to its end ends there. -/
theorem restOfLine?_newline (rest : List Char) : restOfLine? ('\n' :: rest) = some rest := rfl

/-- A line that begins with a word is read as an entry. -/
theorem readLines_of_readEntry {fuel : Nat} {r r' : Reading} {rest after : List Char} (hkey : IsWord key)
    (hentry : readEntry r (key.toList ++ rest) = some (r', after)) :
    readLines (fuel + 1) r (key.toList ++ rest) = readLines fuel r' after := by
  rw [readLines, skipLines_of_word hkey]
  split
  next h => exact absurd (List.append_eq_nil_iff.1 h).1 hkey.1
  next h => exact absurd h (hkey.append_ne (by simp [startMarks]))
  next => rw [hentry]

/-- A pair of a word and a value is read through the end of its line. -/
theorem readEntry_pair {r : Reading} {rest : List Char} (hkey : IsWord key) (hwritten : Writes written value)
    (hfresh : r.Fresh [(key, value)]) :
    readEntry r (key.toList ++ ' ' :: '=' :: ' ' :: (written ++ '\n' :: rest)) =
      some (r.adding [(key, value)], rest) := by
  have hread : readKey (key.toList ++ ' ' :: '=' :: ' ' :: (written ++ '\n' :: rest)) =
      some ([], key, '=' :: ' ' :: (written ++ '\n' :: rest)) :=
    readKey_word hkey rfl (by simp [skipBlanks, isBlank])
  have hvalue : skipBlanks (' ' :: (written ++ '\n' :: rest)) = written ++ '\n' :: rest := by
    obtain ⟨c, more, rfl, hc⟩ := hwritten.exists_cons
    exact (List.dropWhile_cons_of_pos rfl).trans (skipBlanks_of_not_isBlank hc)
  unfold readEntry
  split
  next h => exact absurd h (hkey.append_ne (by simp [startMarks]))
  next h => exact absurd h (hkey.append_ne (by simp [startMarks]))
  next =>
    simp only [hread, expect?_self, hvalue, hwritten.readValue_append, restOfLine?_newline,
      Reading.addPair_of_fresh hfresh, Option.bind_eq_bind, Option.bind_some]

/-- A line that sets a key to a value adds that entry. -/
theorem adds_configLine (hkey : IsWord key) (hwritten : Writes written value) :
    Adds (configLine key written) [(key, value)] where
  length_le := by
    simp only [configLine, List.length_append, List.length_cons, List.length_nil]
    omega
  readLines_append fuel r rest hfresh := by
    have hline : configLine key written ++ rest =
        key.toList ++ ' ' :: '=' :: ' ' :: (written ++ '\n' :: rest) := by
      simp [configLine]
    rw [hline]
    exact readLines_of_readEntry hkey (readEntry_pair hkey hwritten hfresh)

end lines

section headers

/-- A header, and the lines after it. -/
def tableLines (key : String) (lines : List Char) : List Char := '[' :: (key.toList ++ ']' :: '\n' :: lines)

variable {key : String} {r : Reading} {rest : List Char} {root : Section}

/-- A header that names a table not named before puts the current table in its place, and goes on with that
table. -/
theorem openTable_of_new (hroot : r.finish? = some root) (hnew : root.get? key = none) :
    r.openTable [] key = some ⟨root, .empty, some ([], key), false⟩ := by
  simp [Reading.openTable, hroot, Section.modifyAt, Reading.takeNamed, hnew, Reading.namedTable?, Section.empty]

/-- A table is put under its key, if nothing is there. -/
theorem finish?_of_new {current : Section} (hnew : root.get? key = none) :
    Reading.finish? ⟨root, current, some ([], key), false⟩ = some (root.set key (.section current)) := by
  simp [Reading.finish?, Section.modifyAt, Reading.placeTable, hnew]

/-- A header with a new name, alone on its line, opens a table. -/
theorem readEntry_header (hkey : IsWord key) (hroot : r.finish? = some root) (hnew : root.get? key = none) :
    readEntry r (tableLines key rest) = some (⟨root, .empty, some ([], key), false⟩, rest) := by
  have hread : readKey (key.toList ++ ']' :: '\n' :: rest) = some ([], key, ']' :: '\n' :: rest) :=
    readKey_word hkey rfl (by simp [skipBlanks, isBlank])
  unfold readEntry tableLines
  split
  next h => exact absurd (List.tail_eq_of_cons_eq h) (hkey.append_ne (by simp [startMarks]))
  next h =>
    rw [← List.tail_eq_of_cons_eq h]
    simp only [hread, expect?_self, restOfLine?_newline, openTable_of_new hroot hnew, Option.bind_eq_bind,
      Option.bind_some]
  next h => exact absurd rfl (h _)

/-- A header is read through the end of its line. -/
theorem readLines_header {fuel : Nat} (hkey : IsWord key) (hroot : r.finish? = some root)
    (hnew : root.get? key = none) :
    readLines (fuel + 1) r (tableLines key rest) = readLines fuel ⟨root, .empty, some ([], key), false⟩ rest := by
  have hskip (limit : Nat) : skipLines (limit + 1) (tableLines key rest) = tableLines key rest := rfl
  rw [readLines, hskip]
  split
  next h => cases h
  next h => cases h
  next => rw [readEntry_header hkey hroot hnew]

/-- An empty line is passed. -/
theorem readLines_newline {fuel : Nat} : readLines fuel r ('\n' :: rest) = readLines fuel r rest := by
  cases fuel with
  | zero => rfl
  | succ fuel =>
    rw [readLines, readLines]
    have hskip (limit : Nat) : skipLines (limit + 1) ('\n' :: rest) = skipLines limit rest := rfl
    rw [hskip, List.length_cons]

end headers

section tables

variable {key first second : String} {lines more rest : List Char} {entries others : List (String × Toml)}
  {r : Reading} {root : Section}

/-- A table of finished values. -/
def Section.ofEntries (entries : List (String × Toml)) : Section :=
  .mk false false (entries.map fun (key, value) => (key, .leaf value))

/-- The value of a table with given entries has these entries. -/
@[simp] theorem Section.value_ofEntries (entries : List (String × Toml)) :
    (ofEntries entries).value = .table entries := by
  have hvalues : entryValues (entries.map fun (key, value) => (key, .leaf value)) = entries := by
    induction entries with
    | nil => rfl
    | cons entry entries ih => rw [List.map_cons, entryValues, ih, nodeValue]
  rw [ofEntries, value, hvalues]

/-- A key that is not taken is put at the end. -/
theorem Section.entries_set_of_new {s : Section} {node : Node} (hnew : s.get? key = none) :
    (s.set key node).entries = s.entries ++ [(key, node)] := by
  simp [set, hnew, withEntries, entries]

/-- A header and the lines after it are read as a table. -/
theorem readLines_table {fuel : Nat} (hkey : IsWord key) (hroot : r.finish? = some root)
    (hnew : root.get? key = none) (hlines : Adds lines entries) (hentries : (entries.map Prod.fst).Nodup) :
    readLines (fuel + entries.length + 1) r (tableLines key (lines ++ rest)) =
      readLines fuel ⟨root, .ofEntries entries, some ([], key), false⟩ rest := by
  rw [readLines_header hkey hroot hnew]
  exact hlines.readLines_append fuel ⟨root, .empty, some ([], key), false⟩ rest ⟨rfl, hentries⟩

/-- The beginning of a document with one table in it. -/
theorem entries_table (key : String) (entries : List (String × Toml)) :
    (Section.empty.set key (.section (.ofEntries entries))).entries = [(key, .section (.ofEntries entries))] :=
  Section.entries_set_of_new rfl

/-- A table of another name is not taken by the first one. -/
theorem get?_table (hne : first ≠ second) :
    (Section.empty.set first (.section (.ofEntries entries))).get? second = none := by
  have hother : (second == first) = false := by simpa using hne.symm
  rw [Section.get?, entries_table, List.lookup_cons, hother, List.lookup_nil]

/-- Two headers with lines after them are read as two tables with the entries that these lines add. -/
theorem readLines_tables (hfirst : IsWord first) (hsecond : IsWord second) (hne : first ≠ second)
    (hlines : Adds lines entries) (hentries : (entries.map Prod.fst).Nodup)
    (hmore : Adds more others) (hothers : (others.map Prod.fst).Nodup) (fuel : Nat) :
    readLines (fuel + 1 + others.length + 1 + entries.length + 1) .start
      (tableLines first (lines ++ '\n' :: tableLines second more)) =
      some ((Section.empty.set first (.section (.ofEntries entries))).set second (.section (.ofEntries others))) := by
  have hstart : Reading.start.finish? = some .empty := rfl
  have hnew : (Section.empty.set first (.section (.ofEntries entries))).get? second = none := get?_table hne
  rw [readLines_table hfirst hstart rfl hlines hentries, readLines_newline, ← List.append_nil more,
    readLines_table hsecond (finish?_of_new rfl) hnew hmore hothers]
  exact finish?_of_new hnew

/-- Two headers with their lines are read as two tables. -/
theorem parse?_tables (hfirst : IsWord first) (hsecond : IsWord second) (hne : first ≠ second)
    (hlines : Adds lines entries) (hentries : (entries.map Prod.fst).Nodup)
    (hmore : Adds more others) (hothers : (others.map Prod.fst).Nodup) :
    parse? (String.ofList (tableLines first (lines ++ '\n' :: tableLines second more))) =
      some [(first, .table entries), (second, .table others)] := by
  have hmark : dropMark (tableLines first (lines ++ '\n' :: tableLines second more)) =
      tableLines first (lines ++ '\n' :: tableLines second more) := rfl
  -- every header and every entry takes a character at least, so the length of the text is fuel enough
  obtain ⟨fuel, hfuel⟩ : ∃ fuel, (tableLines first (lines ++ '\n' :: tableLines second more)).length + 1 =
      fuel + (1 + others.length + 1 + entries.length + 1) := by
    have hlength := Nat.add_le_add hlines.length_le hmore.length_le
    apply Nat.exists_eq_add_of_le'
    simp only [tableLines, List.length_cons, List.length_append]
    omega
  simp only [← Nat.add_assoc] at hfuel
  simp only [parse?, String.toList_ofList, hmark, hfuel,
    readLines_tables hfirst hsecond hne hlines hentries hmore hothers]
  simp [Section.entries_set_of_new (get?_table hne), entries_table, Section.entryValues, Section.nodeValue]

end tables

end Loopback.Toml
