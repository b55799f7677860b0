import Mathlib.Data.List.TakeWhile
import DatagramLink.Proofs.CommandText

/-!
# Which commands survive the way through text

A line without words is one of blanks, and every word that is read from a line can be
read again behind another word.  So a printed command reads back if and only if it is
printable: a reader of its text that gives the command back has read its arguments as
words of a line, and its name as the first word, which a printer never puts in quotes.
The way through a datagram is the way through text.
-/

namespace DatagramLink
namespace Command

/-! ## Words of a line -/

theorem not_mem_quotedWord (chars : List Char) : '"' ∉ (quotedWord chars).1 := by
  intro hmem
  have hother := List.mem_takeWhile_imp hmem
  simp at hother

theorem bare_plainWord {first : Char} (hfirst : first ≠ '"') (rest : List Char) :
    Bare (plainWord (first :: rest)).1 := by
  constructor
  · intro c hc
    simpa using List.mem_takeWhile_imp hc
  · simp only [plainWord, List.takeWhile_cons]
    split
    · simpa using hfirst
    · simp

theorem readable_of_mem_words {chars word : List Char} (hword : word ∈ words chars) :
    Readable word := by
  induction chars using words.induct with
  | case1 chars hskip =>
      rw [words_eq_wordsFrom, hskip] at hword
      cases hword
  | case2 chars rest hskip quoted ih =>
      rw [words_eq_wordsFrom, hskip, wordsFrom, List.mem_cons] at hword
      rcases hword with rfl | hlater
      · exact Or.inl (not_mem_quotedWord rest)
      · exact ih hlater
  | case3 chars first rest hfirst hskip plain ih =>
      rw [words_eq_wordsFrom, hskip, wordsFrom.eq_3 _ _ hfirst, List.mem_cons] at hword
      rcases hword with rfl | hlater
      · exact Or.inr (bare_plainWord hfirst rest)
      · exact ih hlater

theorem wordsFrom_ne_nil (first : Char) (rest : List Char) : wordsFrom (first :: rest) ≠ [] := by
  by_cases hfirst : first = '"'
  · subst hfirst
    simp [wordsFrom]
  · rw [wordsFrom.eq_3 _ _ hfirst]
    simp

theorem words_eq_nil_iff (chars : List Char) :
    words chars = [] ↔ ∀ c ∈ chars, Text.isBlank c = true := by
  rw [words_eq_wordsFrom, ← List.dropWhile_eq_nil_iff]
  cases chars.dropWhile Text.isBlank with
  | nil => simp [wordsFrom]
  | cons first rest => simpa using wordsFrom_ne_nil first rest

/-- A first word that is spelled without quotes around it is a bare one. -/
theorem bare_of_words_append {name rest : List Char} {others : List (List Char)}
    (hwords : words (name ++ rest) = name :: others) (hne : words rest ≠ name :: others) :
    name ≠ [] ∧ Bare name := by
  rw [words_eq_wordsFrom, List.dropWhile_append] at hwords
  cases hskip : name.dropWhile Text.isBlank with
  | nil =>
      rw [hskip] at hwords
      rw [words_eq_wordsFrom] at hne
      exact absurd hwords hne
  | cons first later =>
      have hmem : first ∈ name := List.dropWhile_sublist _ |>.subset (by rw [hskip]; simp)
      rw [hskip, if_neg (by simp), List.cons_append] at hwords
      refine ⟨List.ne_nil_of_mem hmem, ?_⟩
      by_cases hfirst : first = '"'
      · subst hfirst
        rw [wordsFrom, List.cons.injEq] at hwords
        have hquote := not_mem_quotedWord (later ++ rest)
        rw [hwords.1] at hquote
        exact absurd hmem hquote
      · rw [wordsFrom.eq_3 _ _ hfirst, List.cons.injEq] at hwords
        rw [← hwords.1]
        exact bare_plainWord hfirst _

/-! ## Commands -/

theorem readable_of_parse? {text : String} {command : Command}
    (hparse : parse? text = some command) : ∀ arg ∈ command.args, Readable arg.toList := by
  intro arg harg
  rw [parse?_eq_some_iff] at hparse
  have hword : arg.toList ∈ words text.toList := by
    rw [hparse]
    exact List.mem_cons_of_mem _ (List.mem_map_of_mem harg)
  exact readable_of_mem_words hword

theorem parse?_eq_none_iff (text : String) :
    parse? text = none ↔ ∀ c ∈ text.toList, Text.isBlank c = true := by
  rw [← words_eq_nil_iff, parse?]
  cases words text.toList <;> simp

/-- Reading undoes printing for printable commands only. -/
theorem parse?_render_iff (command : Command) :
    parse? command.render = some command ↔ command.Printable := by
  constructor
  · intro hparse
    have hargs := readable_of_parse? hparse
    rw [parse?_eq_some_iff, toList_render] at hparse
    have hrest : words (argChars command.args) ≠
        command.name.toList :: command.args.map String.toList := by
      rw [words_argChars hargs]
      intro heq
      simpa using congrArg List.length heq
    obtain ⟨hnamed, hname⟩ := bare_of_words_append hparse hrest
    exact ⟨hnamed, hname, hargs⟩
  · exact parse?_render

/-- How texts and commands correspond for a reader of texts. -/
structure ReadsBack (read : String → Option Command) : Prop where
  /-- The printable commands are the ones that their own text gives back. -/
  printed : ∀ command : Command, read command.render = some command ↔ command.Printable
  /-- Only blanks hold no command. -/
  blank : ∀ text, read text = none ↔ ∀ c ∈ text.toList, Text.isBlank c = true
  /-- The arguments that are read can be read again. -/
  args : ∀ text command, read text = some command →
    ∀ arg ∈ command.args, Readable arg.toList
  /-- A command that is read under a bare name is given back by its own text. -/
  again : ∀ text command, read text = some command →
    command.name.toList ≠ [] → Bare command.name.toList →
      read command.render = some command

/-- Commands come back from text, and from the datagram that carries the text, exactly
when they are printable, and whatever is read has arguments that come back. -/
theorem text_reads_back :
    ReadsBack parse? ∧ ReadsBack fun text => ofDatagram? (datagramOfText text) := by
  have htext : ReadsBack parse? :=
    { printed := parse?_render_iff
      blank := parse?_eq_none_iff
      args := fun _ _ hparse => readable_of_parse? hparse
      again := fun _ _ hparse hnamed hname =>
        parse?_render ⟨hnamed, hname, readable_of_parse? hparse⟩ }
  have hdatagram : (fun text => ofDatagram? (datagramOfText text)) = parse? :=
    funext ofDatagram?_datagramOfText
  refine ⟨htext, ?_⟩
  rw [hdatagram]
  exact htext

/-- A line with blanks around its words and an argument in quotes is printed as another line,
which is read as the same command; an argument with a quote beside a blank does not come
back from its datagram. -/
theorem text_reads_back_of_lines :
    (parse? "  connect   4012 \"my name\"" = some ⟨"connect", ["4012", "my name"]⟩ ∧
      parse? (render ⟨"connect", ["4012", "my name"]⟩) =
        some ⟨"connect", ["4012", "my name"]⟩) ∧
    ofDatagram? (toDatagram ⟨"print", ["say \"hi\""]⟩) ≠ some ⟨"print", ["say \"hi\""]⟩ := by
  have hread : parse? "  connect   4012 \"my name\"" =
      some ⟨"connect", ["4012", "my name"]⟩ := by decide +kernel
  refine ⟨⟨hread, text_reads_back.1.again _ _ hread (by decide) (by decide)⟩, ?_⟩
  intro hback
  have hprintable := (text_reads_back.2.printed ⟨"print", ["say \"hi\""]⟩).mp hback
  exact absurd (hprintable.args _ List.mem_cons_self) (by decide)

end Command
end DatagramLink
