import Flowchart.CommandLine.Arguments
import Flowchart.Proofs.Text.Front

/-!
What the words of the command line lead to.

Reading goes from word to word, and what it ends in comes from single words: only a word that
spells the flag for help leads to the help page, only one that ends in two dashes to a spacing
without a number, and the file is one of the words.

Main definitions: `SpellsHelp`, `Arguments.HasBlankSpacing`. Main statements: `exists_spellsHelp`,
`exists_dashes`, `file_mem`.
-/

namespace Flowchart.CommandLine

/-! ### Reading words -/

/-- A flag for a spacing is there, with the two dashes in place of a number. -/
def Arguments.HasBlankSpacing (arguments : Arguments) : Prop :=
  arguments.nodeSpacing = .blank ∨ arguments.rankSpacing = .blank

/-- A word that has been read as a request for help. -/
def Word.AsksHelp : Word → Prop
  | .helpLetters letters => readHelpLetters letters = .help
  | .flag asked explicit => asked = .help ∧ explicit = none
  | .plain _ | .separator | .unknown _ => False

/-- A word that has been read as the two dashes, or as a flag with these behind its equals sign. -/
def Word.IsBlank : Word → Prop
  | .flag _ explicit => explicit = some "--"
  | .plain text => text = "--"
  | .separator | .helpLetters _ | .unknown _ => False

/-- Letters behind the short flag for help ask for it or are refused. -/
theorem readHelpLetters_cases (letters : List Char) :
    readHelpLetters letters = .help ∨ ∃ cause, readHelpLetters letters = .refused cause := by
  fun_induction readHelpLetters letters with
  | case1 => exact .inl rfl
  | case2 _ _ ih => exact ih
  | case3 => exact .inr ⟨_, rfl⟩

/-- Letters ask for help if each of them does so by itself. -/
theorem letters_of_readHelpLetters {letters : List Char} (help : readHelpLetters letters = .help) :
    letters ≠ [] ∧ ∀ letter ∈ letters, letter = 'h' := by
  fun_induction readHelpLetters letters with
  | case1 => simp
  | case2 _ _ ih => simpa using (ih help).2
  | case3 => cases help

theorem exists_of_map_eq_ok {ε α β : Type} {result : Except ε α} {f : α → β} {value : β}
    (mapped : result.map f = .ok value) : ∃ a, value = f a := by
  cases result with
  | error cause => cases mapped
  | ok a => exact ⟨a, (Except.ok.inj mapped).symm⟩

/-- Arguments that words have changed: no spacing has become blank without a blank word, and the
file, if it is another one, is a word of its own. -/
structure Arguments.ChangedBy (words : List Word) (before after : Arguments) : Prop where
  blanks : after.HasBlankSpacing → before.HasBlankSpacing ∨ ∃ word ∈ words, word.IsBlank
  file : after.file = before.file ∨ .plain after.file ∈ words

namespace Arguments.ChangedBy

variable {words rest : List Word} {before between after : Arguments}

theorem refl (words : List Word) (arguments : Arguments) : ChangedBy words arguments arguments :=
  ⟨.inl, .inl rfl⟩

/-- Changes by a word and then by the words behind it are changes by them together. -/
theorem trans (first : ChangedBy words before between) (within : rest ⊆ words)
    (second : ChangedBy rest between after) : ChangedBy words before after where
  blanks := by
    intro blank
    rcases second.blanks blank with there | ⟨word, member, dashes⟩
    · exact first.blanks there
    · exact .inr ⟨word, within member, dashes⟩
  file := by
    rcases second.file with same | word
    · rw [same]
      exact first.file
    · exact .inr (within word)

/-- A value makes a spacing blank only if it is the two dashes, and is never a file. -/
theorem setValue {limits : Limits} {flag : Flag} {text : String}
    (set : before.setValue limits flag text = .ok after)
    (dashes : text = "--" → ∃ word ∈ words, word.IsBlank) : ChangedBy words before after := by
  unfold Arguments.setValue at set
  split at set
  case isTrue blank =>
    cases set
    refine ⟨fun _ => .inr (dashes blank), .inl ?_⟩
    cases flag <;> rfl
  case isFalse =>
    cases flag
    case nodeSpacing =>
      obtain ⟨number, rfl⟩ := exists_of_map_eq_ok set
      exact ⟨fun blank => .inl (.inr (blank.resolve_left nofun)), .inl rfl⟩
    case rankSpacing =>
      obtain ⟨number, rfl⟩ := exists_of_map_eq_ok set
      exact ⟨fun blank => .inl (.inl (blank.resolve_right nofun)), .inl rfl⟩
    case indent =>
      obtain ⟨number, rfl⟩ := exists_of_map_eq_ok set
      exact ⟨.inl, .inl rfl⟩
    all_goals
      cases set
      exact ⟨.inl, .inl rfl⟩

theorem setFlag (words : List Word) (arguments : Arguments) (flag : Flag) :
    ChangedBy words arguments (arguments.setFlag flag) := by
  cases flag <;> exact ⟨.inl, .inl rfl⟩

/-- A word that has its place is the file, unless there is one already. -/
theorem takeWord {text : String} (listed : .plain text ∈ words) (progress : Progress) :
    ChangedBy words progress.arguments (progress.takeWord text).arguments := by
  rw [Progress.takeWord]
  split
  · exact .refl words progress.arguments
  · exact ⟨.inl, .inr listed⟩

end Arguments.ChangedBy

/-- What reading a word leads to: help if the word asks for it, a refusal, or reading on behind it
with arguments that the word and those after it have changed. -/
inductive ReadsOn (limits : Limits) (progress : Progress) (word : Word) (words : List Word) :
    Request → Prop
  | help (asks : word.AsksHelp) : ReadsOn limits progress word words .help
  | refused (cause : UsageError) : ReadsOn limits progress word words (.refused cause)
  | onward (next : Progress) (rest : List Word) (behind : rest <:+ words)
    (changed : Arguments.ChangedBy (word :: words) progress.arguments next.arguments) :
    ReadsOn limits progress word words (readWords limits next rest)

section ReadsOn

variable {limits : Limits} {progress next : Progress} {word : Word} {words rest : List Word}

/-- Reading on with the arguments as they are. -/
theorem ReadsOn.keeping (behind : rest <:+ words)
    (kept : next.arguments = progress.arguments) :
    ReadsOn limits progress word words (readWords limits next rest) :=
  .onward next rest behind (kept ▸ .refl _ _)

/-- Reading on behind a word that has its place. -/
theorem ReadsOn.taking (behind : rest <:+ words) {text : String}
    (listed : .plain text ∈ word :: words) :
    ReadsOn limits progress word words (readWords limits (progress.takeWord text) rest) :=
  .onward _ rest behind (.takeWord listed progress)

/-- Reading on behind the value of a flag. -/
theorem readsOn_readValue (flag : Flag) {text : String} (behind : rest <:+ words)
    (dashes : text = "--" → ∃ given ∈ word :: words, given.IsBlank) :
    ReadsOn limits progress word words (readWords.readValue limits progress flag text rest) := by
  rw [readWords.readValue]
  cases set : progress.arguments.setValue limits flag text with
  | error cause => exact .refused cause
  | ok arguments => exact .onward _ rest behind (.setValue set dashes)

theorem readsOn_readHelpLetters (letters : List Char) :
    ReadsOn limits progress (.helpLetters letters) words (readHelpLetters letters) := by
  rcases readHelpLetters_cases letters with help | ⟨cause, refused⟩
  · rw [help]
    exact .help help
  · rw [refused]
    exact .refused cause

/-- Reading a word and going on changes the arguments by it and by the words behind it. -/
theorem readWords_cons (limits : Limits) (progress : Progress) (word : Word) (words : List Word) :
    ReadsOn limits progress word words (readWords limits progress (word :: words)) := by
  rw [readWords.eq_def]
  split
  case h_1 empty => cases empty
  case h_2 text rest same =>
    cases same
    split
    · exact .keeping (List.suffix_cons _ _) rfl
    · exact .taking (List.suffix_cons _ _) (by simp)
  case h_3 same =>
    cases same
    exact .taking (List.suffix_refl _) (by simp)
  case h_4 same =>
    cases same
    split
    · exact .keeping (List.suffix_refl _) rfl
    · split
      case h_1 text rest => exact .taking (List.suffix_cons _ _) (by simp)
      case h_2 => exact .keeping (List.suffix_refl _) rfl
  case h_5 same =>
    cases same
    exact .keeping (List.suffix_refl _) rfl
  case h_6 letters _ same =>
    cases same
    exact readsOn_readHelpLetters letters
  case h_7 flag explicit rest same =>
    cases same
    split
    · split
      case h_1 text =>
        exact readsOn_readValue flag (List.suffix_refl _) fun dashes =>
          ⟨_, List.mem_cons_self, congrArg some dashes⟩
      case h_2 text rest =>
        exact readsOn_readValue flag (List.suffix_cons _ _) fun dashes =>
          ⟨.plain text, by simp, dashes⟩
      case h_3 => exact .refused _
    · cases explicit with
      | some text => exact .refused _
      | none =>
          dsimp only
          split
          case isTrue asked => exact .help ⟨asked, rfl⟩
          case isFalse => exact .onward _ _ (List.suffix_refl _) (.setFlag _ _ flag)

end ReadsOn

/-- Help that comes from a word that asks for it, and arguments that the words have changed. -/
def Request.ComesFrom (progress : Progress) (words : List Word) : Request → Prop
  | .help => ∃ word ∈ words, word.AsksHelp
  | .refused _ => True
  | .run arguments => Arguments.ChangedBy words progress.arguments arguments

/-- What comes from the words behind comes from all of them. -/
theorem Request.ComesFrom.extend {before after : Progress} {words rest : List Word}
    {request : Request} (comes : request.ComesFrom after rest) (within : rest ⊆ words)
    (changed : Arguments.ChangedBy words before.arguments after.arguments) :
    request.ComesFrom before words := by
  cases request with
  | help =>
      obtain ⟨word, member, asks⟩ := comes
      exact ⟨word, within member, asks⟩
  | refused cause => trivial
  | run arguments => exact changed.trans within comes

/-- What a list of words is read as comes from these words. -/
theorem readWords_comesFrom (limits : Limits) (progress : Progress) (words : List Word) :
    (readWords limits progress words).ComesFrom progress words := by
  induction size : words.length using Nat.strongRecOn generalizing progress words with
  | ind count ih =>
      cases words with
      | nil =>
          rw [readWords, Progress.finish]
          split
          · exact .refl _ _
          · trivial
      | cons word words =>
          have step := readWords_cons limits progress word words
          generalize readWords limits progress (word :: words) = request at step ⊢
          cases step with
          | help asks => exact ⟨word, by simp, asks⟩
          | refused cause => trivial
          | onward next rest behind changed =>
              have shorter : rest.length < count := by
                rw [← size]
                exact Nat.lt_succ_of_le behind.length_le
              exact (ih rest.length shorter next rest rfl).extend
                (behind.trans (List.suffix_cons _ _)).subset changed

/-! ### Classes of words -/

/-- What a word has been read as, told by the word itself. -/
def Word.ReadFrom (word : String) : Word → Prop
  | .plain text | .unknown text => text = word
  | .separator => False
  | .helpLetters letters =>
      word.toList = "-h".toList ++ letters ∨ word.toList = "-h=".toList ++ letters
  | .flag asked explicit =>
      (explicit = none → (word, asked) ∈ Flag.spellings ∨
        "--".toList <+: word.toList ∧ ∃ spelling, startingWith word.toList = [(spelling, asked)]) ∧
      ∀ value ∈ explicit, value.toList <:+ word.toList

theorem splitValue_isSuffix {text start value : List Char}
    (split : splitValue text = some (start, value)) : value <:+ text := by
  rw [splitValue, Text.run] at split
  split at split
  case h_1 left c right runs =>
    cases split
    obtain ⟨-, behind⟩ := Prod.mk.inj runs
    have equals : c :: value <:+ text := behind ▸ List.dropWhile_suffix _
    exact (List.suffix_cons c value).trans equals
  case h_2 => cases split

theorem readFrom_classifyInexact {word : String} {start : List Char} {explicit : Option String}
    {read : Word} (classified : classifyInexact word word.toList start explicit = .ok read)
    (whole : explicit = none → start = word.toList)
    (valued : ∀ value ∈ explicit, value.toList <:+ word.toList) : read.ReadFrom word := by
  rw [classifyInexact] at classified
  split at classified
  case h_1 entry single =>
    cases classified
    refine ⟨fun alone => .inr ?_, valued⟩
    split_ifs at single with dashes
    rw [whole alone] at single
    exact ⟨List.isPrefixOf_iff_prefix.mp dashes, entry.1, single⟩
  case h_2 => split_ifs at classified <;> cases classified <;> rfl
  case h_3 => cases classified

/-- A word that is told apart says what it has been read from. -/
theorem readFrom_classify {word : String} {read : Word} (classified : classify word = .ok read) :
    read.ReadFrom word := by
  have spelled {spelling : String} {flag : Flag}
      (found : Flag.spellings.lookup spelling = some flag) : (spelling, flag) ∈ Flag.spellings := by
    obtain ⟨front, back, split, -⟩ := List.lookup_eq_some_iff.mp found
    simp [split]
  rw [classify] at classified
  split at classified
  case h_1 letters same =>
    cases classified
    simp [Word.ReadFrom, same]
  case h_2 letter letters _ same =>
    cases classified
    simp [Word.ReadFrom, same]
  case h_3 c rest _ _ same =>
    rw [← same] at classified
    dsimp only at classified
    split at classified
    case h_1 flag found =>
      cases classified
      exact ⟨fun _ => .inl (spelled found), by simp⟩
    case h_2 =>
      split at classified
      case h_1 => exact readFrom_classifyInexact classified (fun _ => rfl) (by simp)
      case h_2 start value split =>
        have valued : ∀ text ∈ some (String.ofList value), text.toList <:+ word.toList := by
          rintro _ ⟨⟩
          rw [String.toList_ofList]
          exact splitValue_isSuffix split
        split at classified
        case h_1 =>
          cases classified
          exact ⟨nofun, valued⟩
        case h_2 => exact readFrom_classifyInexact classified nofun valued
  case h_4 =>
    cases classified
    rfl

/-- The words as they have been read come from the words, but for the dashes that end the flags. -/
theorem mem_classifyAll {words : List String} {reads : List Word}
    (classified : classifyAll words = .ok reads) {read : Word} (member : read ∈ reads) :
    read = .separator ∨ ∃ word ∈ words, read.ReadFrom word := by
  fun_induction classifyAll words generalizing reads with
  | case1 =>
      cases classified
      cases member
  | case2 rest =>
      cases classified
      rcases List.mem_cons.mp member with rfl | behind
      · exact .inl rfl
      · obtain ⟨word, listed, rfl⟩ := List.mem_map.mp behind
        exact .inr ⟨word, List.mem_cons_of_mem _ listed, rfl⟩
  | case3 => cases classified
  | case4 word rest _ first isFirst ih =>
      cases others : classifyAll rest with
      | error cause =>
          rw [others] at classified
          cases classified
      | ok further =>
          rw [others] at classified
          cases classified
          rcases List.mem_cons.mp member with rfl | behind
          · exact .inr ⟨word, by simp, readFrom_classify isFirst⟩
          · exact (ih others behind).imp id fun ⟨word, listed, found⟩ =>
              ⟨word, List.mem_cons_of_mem _ listed, found⟩

/-! ### Help -/

/-- A word that asks for help: the short flag, alone or with further letters that ask for help
behind it or behind its equals sign, or as much of the long one as tells it from the others. -/
def SpellsHelp (word : String) : Prop :=
  "-h".toList <+: word.toList ∧ (∀ letter ∈ word.toList.drop 2, letter = 'h') ∨
    "-h=h".toList <+: word.toList ∧ (∀ letter ∈ word.toList.drop 3, letter = 'h') ∨
    "--h".toList <+: word.toList ∧ word.toList <+: "--help".toList

instance (word : String) : Decidable (SpellsHelp word) :=
  decidable_of_iff
    ("-h".toList <+: word.toList ∧ (word.toList.drop 2).all (· == 'h') = true ∨
      "-h=h".toList <+: word.toList ∧ (word.toList.drop 3).all (· == 'h') = true ∨
      "--h".toList <+: word.toList ∧ word.toList <+: "--help".toList)
    (by simp [SpellsHelp])

/-- A shortened flag asks for help if it is long enough to tell it from the others. -/
theorem spellsHelp_of_startingWith {word spelling : String} (dashes : "--".toList <+: word.toList)
    (single : startingWith word.toList = [(spelling, .help)]) : SpellsHelp word := by
  obtain ⟨listed, shortened⟩ := List.mem_filter.mp
    (single ▸ List.mem_singleton_self _ : (spelling, Flag.help) ∈ startingWith word.toList)
  have starts : word.toList <+: spelling.toList := List.isPrefixOf_iff_prefix.mp shortened
  have long : spelling = "--help" := by
    have named : ∀ entry ∈ Flag.spellings, entry.2 = .help → "--".toList <+: entry.1.toList →
        entry.1 = "--help" := by decide
    exact named _ listed rfl (dashes.trans starts)
  rw [long] at starts
  refine .inr (.inr ⟨?_, starts⟩)
  -- What follows the dashes is the front of the long name, and it is not empty.
  obtain ⟨name, split⟩ := dashes
  rw [← split] at single starts ⊢
  cases name with
  | nil =>
      have several : (startingWith "--".toList).length = 8 := by decide
      have one := congrArg List.length single
      rw [List.append_nil, several] at one
      cases one
  | cons c name =>
      obtain ⟨letter, -⟩ : c = 'h' ∧ name <+: ['e', 'l', 'p'] := by simpa using starts
      simp [letter]

/-- A word that is read as a request for help spells it. -/
theorem spellsHelp_of_readFrom {word : String} {read : Word} (origin : read.ReadFrom word)
    (asks : read.AsksHelp) : SpellsHelp word := by
  cases read with
  | helpLetters letters =>
      obtain ⟨some, each⟩ := letters_of_readHelpLetters asks
      rcases origin with spelled | spelled
      · exact .inl ⟨⟨letters, spelled.symm⟩, by simpa [spelled] using each⟩
      · obtain ⟨letter, others, rfl⟩ := List.exists_cons_of_ne_nil some
        refine .inr (.inl ⟨⟨others, ?_⟩, by simpa [spelled] using each⟩)
        simp [spelled, each letter]
  | flag asked explicit =>
      obtain ⟨rfl, alone⟩ := asks
      rcases origin.1 alone with listed | ⟨dashes, spelling, single⟩
      · have spelled : ∀ entry ∈ Flag.spellings, entry.2 = .help → SpellsHelp entry.1 := by decide
        exact spelled _ listed rfl
      · exact spellsHelp_of_startingWith dashes single
  | plain | separator | unknown => exact asks.elim

/-- Only a word that spells the flag for help leads to the help page. -/
theorem exists_spellsHelp {limits : Limits} {words : List String}
    (help : Arguments.read limits words = .help) :
    ∃ word ∈ words, SpellsHelp word := by
  rw [Arguments.read] at help
  cases classified : classifyAll words with
  | error cause =>
      rw [classified] at help
      cases help
  | ok reads =>
      rw [classified] at help
      have comes := readWords_comesFrom limits {} reads
      rw [show readWords limits {} reads = .help from help] at comes
      obtain ⟨asking, member, asks⟩ := comes
      rcases mem_classifyAll classified member with rfl | ⟨word, listed, origin⟩
      · exact asks.elim
      · exact ⟨word, listed, spellsHelp_of_readFrom origin asks⟩

/-! ### Arguments -/

/-- A word that is read as a blank value ends with two dashes. -/
theorem dashes_of_readFrom {word : String} {read : Word} (origin : read.ReadFrom word)
    (blank : read.IsBlank) : "--".toList <:+ word.toList := by
  cases read with
  | plain text => exact (origin.symm.trans blank) ▸ List.suffix_refl _
  | flag flag explicit => exact origin.2 "--" blank
  | helpLetters | separator | unknown => exact blank.elim

section Arguments

variable {limits : Limits} {words : List String} {arguments : Arguments}

/-- Arguments are the usual ones as the words, once they have been read, have changed them. -/
theorem exists_changedBy (asked : Arguments.read limits words = .run arguments) :
    ∃ reads, classifyAll words = .ok reads ∧ Arguments.ChangedBy reads {} arguments := by
  rw [Arguments.read] at asked
  cases classified : classifyAll words with
  | error cause =>
      rw [classified] at asked
      cases asked
  | ok reads =>
      rw [classified] at asked
      have comes := readWords_comesFrom limits {} reads
      rw [show readWords limits {} reads = .run arguments from asked] at comes
      exact ⟨reads, rfl, comes⟩

/-- Only a word that ends in two dashes leads to a spacing without a number. -/
theorem exists_dashes (asked : Arguments.read limits words = .run arguments)
    (blank : arguments.HasBlankSpacing) : ∃ word ∈ words, "--".toList <:+ word.toList := by
  obtain ⟨reads, classified, changed⟩ := exists_changedBy asked
  rcases changed.blanks blank with before | ⟨given, member, dashes⟩
  · rcases before with none | none <;> cases none
  · rcases mem_classifyAll classified member with rfl | ⟨word, listed, origin⟩
    · exact dashes.elim
    · exact ⟨word, listed, dashes_of_readFrom origin dashes⟩

/-- The file is one of the words, or the dash for standard input. -/
theorem file_mem (asked : Arguments.read limits words = .run arguments) :
    arguments.file = "-" ∨ arguments.file ∈ words := by
  obtain ⟨reads, classified, changed⟩ := exists_changedBy asked
  rcases changed.file with same | member
  · exact .inl same
  · rcases mem_classifyAll classified member with other | ⟨word, listed, origin⟩
    · cases other
    · have same : arguments.file = word := origin
      exact .inr (same ▸ listed)

end Arguments

end Flowchart.CommandLine
