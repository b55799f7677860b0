import DatagramLink.Handshake
import DatagramLink.Proofs.HeaderCodec
import DatagramLink.Text.Decimal

/-!
# Commands on the wire

A line is read word by word, and each word is one that can be read: it holds no double
quote, or it is bare, without blanks and without a quote in front.  A printed command
reads back word for word when its name is bare and its arguments can be read.  Numbers
survive the way through text, so the two sides of a handshake read what the other one
wrote.
-/

namespace DatagramLink

/-! ## Decimal numerals -/

namespace Text

theorem digitValue?_of_isDigit {c : Char} (hdigit : c.isDigit = true) :
    digitValue? 10 c = some (c.toNat - '0'.toNat) := by
  have hbounds : '0' ≤ c ∧ c ≤ '9' := by
    simpa [Char.isDigit, Char.le_def] using hdigit
  have hvalue : c.toNat - '0'.toNat < 10 := by
    have hhigh : c.toNat ≤ '9'.toNat := hbounds.2
    simp only [Char.reduceToNat] at hhigh ⊢
    omega
  simp only [digitValue?, hbounds.1, hbounds.2, decide_true, Bool.and_self, if_true,
    Option.filter_some, hvalue]

theorem digitsFrom?_of_isDigit
    {chars : List Char} (hdigits : ∀ c ∈ chars, c.isDigit = true) (value : Nat) :
    digitsFrom? 10 value chars = some (Nat.ofDigitChars 10 chars value) := by
  induction chars generalizing value with
  | nil => simp [digitsFrom?]
  | cons c chars ih =>
      have hrest : ∀ c ∈ chars, c.isDigit = true := by
        intro c hc
        exact hdigits c (List.mem_cons_of_mem _ hc)
      rw [digitsFrom?, digitValue?_of_isDigit (hdigits c List.mem_cons_self),
        Nat.ofDigitChars_cons]
      exact ih hrest _

theorem toList_toString (n : Nat) : (toString n).toList = Nat.toDigits 10 n :=
  Nat.toList_repr

theorem isDigit_of_mem_toString {n : Nat} {c : Char} (hc : c ∈ (toString n).toList) :
    c.isDigit = true := by
  rw [toList_toString] at hc
  exact Nat.isDigit_of_mem_toDigits (by decide) (by decide) hc

theorem toString_ne_nil (n : Nat) : (toString n).toList ≠ [] := by
  rw [toList_toString]
  exact Nat.toDigits_ne_nil

/-- A printed number reads back, unless it is beyond the limit of the reader. -/
theorem unsigned?_toString_eq (limit n : Nat) :
    unsigned? limit (toString n) = if n ≤ limit then some n else none := by
  have hdigits : digits? (toString n).toList = some n := by
    rw [digits?, if_neg (by simp),
      digitsFrom?_of_isDigit (fun c hc => isDigit_of_mem_toString hc), toList_toString,
      Nat.ofDigitChars_ten_toDigits]
  have hplain : ∀ rest, (toString n).toList ≠ '+' :: rest := by
    intro rest heq
    have hplus : '+'.isDigit = true := by
      apply isDigit_of_mem_toString (n := n)
      rw [heq]
      exact List.mem_cons_self
    exact absurd hplus (by decide)
  unfold unsigned?
  cases hchars : (toString n).toList with
  | nil => exact absurd hchars (toString_ne_nil n)
  | cons c rest =>
      rw [hchars] at hdigits
      have hc : c ≠ '+' := by
        intro heq
        rw [heq] at hchars
        exact hplain rest hchars
      split
      · next heq =>
          rw [List.cons.injEq] at heq
          exact absurd heq.1 hc
      · simp only [hdigits, Option.filter_some, decide_eq_true_eq]

theorem unsigned?_toString {limit n : Nat} (hlimit : n ≤ limit) :
    unsigned? limit (toString n) = some n := by
  rw [unsigned?_toString_eq, if_pos hlimit]

end Text

namespace Command

/-! ## Words -/

/-- A word that is read up to the next blank: it holds none and starts with no quote. -/
structure Bare (word : List Char) : Prop where
  unbroken : ∀ c ∈ word, Text.isBlank c = false
  unquoted : word.head? ≠ some '"'

/-- A word that can be read: between quotes when it holds none, and else as a bare one. -/
def Readable (word : List Char) : Prop := '"' ∉ word ∨ Bare word

instance (word : List Char) : Decidable (Bare word) :=
  decidable_of_iff ((word.all fun c => Text.isBlank c = false) = true ∧ word.head? ≠ some '"')
    ⟨fun h => ⟨by simpa using h.1, h.2⟩, fun h => ⟨by simpa using h.unbroken, h.unquoted⟩⟩

instance (word : List Char) : Decidable (Readable word) :=
  inferInstanceAs (Decidable (_ ∨ _))

/-- The words of a line, by what follows its leading blanks. -/
def wordsFrom : List Char → List (List Char)
  | [] => []
  | '"' :: rest => (quotedWord rest).1 :: words (quotedWord rest).2
  | first :: rest =>
      (plainWord (first :: rest)).1 :: words (plainWord (first :: rest)).2

theorem words_eq_wordsFrom (chars : List Char) :
    words chars = wordsFrom (chars.dropWhile Text.isBlank) := by
  rw [words.eq_def]
  split
  · next heq => rw [heq, wordsFrom]
  · next rest heq => rw [heq, wordsFrom]
  · next first rest hfirst heq =>
      rw [heq, wordsFrom.eq_def]
      split
      · next hnil => cases hnil
      · next quoted hquoted =>
          rw [List.cons.injEq] at hquoted
          exact absurd hquoted.1 hfirst
      · next other later hother =>
          rw [List.cons.injEq] at hother
          obtain ⟨rfl, rfl⟩ := hother
          rfl

theorem words_blank {c : Char} (hblank : Text.isBlank c = true) (rest : List Char) :
    words (c :: rest) = words rest := by
  rw [words_eq_wordsFrom, words_eq_wordsFrom, List.dropWhile_cons_of_pos hblank]

theorem words_nil : words [] = [] :=
  words_eq_wordsFrom []

theorem words_quoted {word : List Char} (hword : '"' ∉ word) (rest : List Char) :
    words ('"' :: (word ++ '"' :: rest)) = word :: words rest := by
  have hskip : ('"' :: (word ++ '"' :: rest)).dropWhile Text.isBlank =
      '"' :: (word ++ '"' :: rest) :=
    List.dropWhile_cons_of_neg (by decide)
  have hplain : ∀ c ∈ word, (c != '"') = true := by
    intro c hc
    rw [bne_iff_ne]
    intro heq
    exact hword (heq ▸ hc)
  have htake : (word ++ '"' :: rest).takeWhile (· != '"') = word := by
    rw [List.takeWhile_append_of_pos hplain, List.takeWhile_cons_of_neg (by decide),
      List.append_nil]
  have hdrop : (word ++ '"' :: rest).dropWhile (· != '"') = '"' :: rest := by
    rw [List.dropWhile_append_of_pos hplain, List.dropWhile_cons_of_neg (by decide)]
  rw [words_eq_wordsFrom, hskip, wordsFrom, quotedWord, htake, hdrop]
  rfl

/-- A bare word ends at a blank or with the text. -/
theorem words_bare {word : List Char} (hne : word ≠ []) (hbare : Bare word)
    {rest : List Char} (hrest : ∀ c, rest.head? = some c → Text.isBlank c = true) :
    words (word ++ rest) = word :: words rest := by
  cases word with
  | nil => exact absurd rfl hne
  | cons first word =>
      have hquote : first ≠ '"' := by simpa using hbare.unquoted
      have hskip : (first :: word ++ rest).dropWhile Text.isBlank = first :: word ++ rest :=
        List.dropWhile_cons_of_neg (by simp [hbare.unbroken first List.mem_cons_self])
      have hplain : ∀ c ∈ first :: word, (!Text.isBlank c) = true := by
        intro c hc
        simp [hbare.unbroken c hc]
      have htake : rest.takeWhile (!Text.isBlank ·) = [] := by
        cases rest with
        | nil => rfl
        | cons c rest => exact List.takeWhile_cons_of_neg (by simp [hrest c rfl])
      have hdrop : rest.dropWhile (!Text.isBlank ·) = rest := by
        cases rest with
        | nil => rfl
        | cons c rest => exact List.dropWhile_cons_of_neg (by simp [hrest c rfl])
      have hword' : plainWord (first :: word ++ rest) = (first :: word, rest) := by
        rw [plainWord, List.takeWhile_append_of_pos hplain,
          List.dropWhile_append_of_pos hplain, htake, hdrop, List.append_nil]
      rw [words_eq_wordsFrom, hskip, List.cons_append, wordsFrom.eq_3 _ _ hquote,
        ← List.cons_append, hword']

/-! ## Printed commands -/

def argChars (args : List String) : List Char :=
  args.flatMap fun arg => (renderArg arg).toList

theorem toList_render (command : Command) :
    command.render.toList = command.name.toList ++ argChars command.args := by
  simp only [render, argChars, String.toList_append, String.toList_join, List.flatMap_map]

theorem toList_renderArg (arg : String) :
    (renderArg arg).toList =
      if needsQuotes arg then ' ' :: '"' :: (arg.toList ++ ['"']) else ' ' :: arg.toList := by
  unfold renderArg
  split <;> simp

theorem isBlank_head_argChars {args : List String} {c : Char}
    (hhead : (argChars args).head? = some c) :
    Text.isBlank c = true := by
  cases args with
  | nil => cases hhead
  | cons arg args =>
      have hspace : c = ' ' := by
        rw [argChars, List.flatMap_cons, toList_renderArg] at hhead
        split at hhead <;> exact (Option.some.inj hhead).symm
      rw [hspace]
      decide

theorem words_argChars {args : List String}
    (hargs : ∀ arg ∈ args, Readable arg.toList) :
    words (argChars args) = args.map String.toList := by
  induction args with
  | nil => exact words_nil
  | cons arg args ih =>
      have hrest := ih fun other hother => hargs other (List.mem_cons_of_mem _ hother)
      have hchars : argChars (arg :: args) = (renderArg arg).toList ++ argChars args :=
        List.flatMap_cons
      rw [hchars, toList_renderArg, List.map_cons, ← hrest]
      by_cases hneeds : needsQuotes arg = true
      · have hquote : '"' ∉ arg.toList := by
          rcases hargs arg List.mem_cons_self with hquote | hbare
          · exact hquote
          · simp only [needsQuotes, Bool.or_eq_true, List.any_eq_true] at hneeds
            rcases hneeds with hempty | ⟨c, hc, hblank⟩
            · simp [String.isEmpty_iff.mp hempty]
            · simp [hbare.unbroken c hc] at hblank
        rw [if_pos hneeds, List.cons_append, List.cons_append, List.append_assoc,
          words_blank (by decide)]
        exact words_quoted hquote _
      · rw [if_neg hneeds, List.cons_append, words_blank (by decide)]
        simp only [needsQuotes, Bool.or_eq_true, not_or, List.any_eq_true, not_exists,
          not_and, Bool.not_eq_true] at hneeds
        refine words_bare ?_ ⟨hneeds.2, ?_⟩ fun c => isBlank_head_argChars
        · intro hempty
          have hnil : arg = "" := String.toList_eq_nil_iff.mp hempty
          exact absurd hneeds.1 (by simp [hnil])
        · rcases hargs arg List.mem_cons_self with hquote | hbare
          · exact fun hhead => hquote (List.mem_of_mem_head? hhead)
          · exact hbare.unquoted

/-- A name that is one bare word, and arguments that can be read. -/
structure Printable (command : Command) : Prop where
  named : command.name.toList ≠ []
  name : Bare command.name.toList
  args : ∀ arg ∈ command.args, Readable arg.toList

theorem parse?_eq_some_iff {text : String} {command : Command} :
    parse? text = some command ↔
      words text.toList = command.name.toList :: command.args.map String.toList := by
  have htexts : ∀ read : List (List Char), (read.map String.ofList).map String.toList = read := by
    simp
  unfold parse?
  constructor
  · intro hparse
    rw [← htexts (words text.toList)]
    split at hparse
    · cases hparse
    · next name args heq =>
        cases hparse
        rw [heq, List.map_cons]
  · intro hwords
    rw [hwords]
    simp

/-- Reading undoes printing. -/
theorem parse?_render {command : Command} (hprintable : command.Printable) :
    parse? command.render = some command := by
  rw [parse?_eq_some_iff, toList_render, words_bare hprintable.named hprintable.name
    fun c => isBlank_head_argChars, words_argChars hprintable.args]

/-- The datagram of a text is read as the text is. -/
theorem ofDatagram?_datagramOfText (text : String) :
    ofDatagram? (datagramOfText text) = parse? text := by
  rw [ofDatagram?, datagramOfText, Header.connectionlessPayload_connectionless,
    Option.bind_some, Text.Utf8.lossy_toUTF8]

theorem ofDatagram?_toDatagram {command : Command} (hprintable : command.Printable) :
    ofDatagram? command.toDatagram = some command := by
  rw [toDatagram, ofDatagram?_datagramOfText]
  exact parse?_render hprintable

/-! ## Handshakes -/

theorem not_mem_toString {c : Char} (hc : c.isDigit = false) (n : Nat) :
    c ∉ (toString n).toList := by
  intro hmem
  rw [Text.isDigit_of_mem_toString hmem] at hc
  cases hc

theorem printable_connectRequest (qport : UInt16) : (connectRequest qport).Printable where
  named := show "connect".toList ≠ [] by decide
  name := show Bare "connect".toList by decide
  args := by
    intro arg harg
    left
    rcases List.mem_cons.mp harg with rfl | harg
    · exact not_mem_toString (by decide) qport.toNat
    · rw [List.mem_singleton.mp harg]
      exact not_mem_toString (by decide) protocolVersion

theorem printable_connectResponse (id : Nat) : (connectResponse id).Printable where
  named := show "connectResponse".toList ≠ [] by decide
  name := show Bare "connectResponse".toList by decide
  args := by
    intro arg harg
    left
    rw [List.mem_singleton.mp harg]
    exact not_mem_toString (by decide) id

theorem printable_disconnectNotice : disconnectNotice.Printable where
  named := by decide
  name := by decide
  args := by decide

end Command
end DatagramLink
