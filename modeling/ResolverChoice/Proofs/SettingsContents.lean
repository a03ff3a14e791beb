/-
What a file of resolver settings says, whatever the order in which it is read.

A file is a list of statements, and `SettingsContents` collects what they list: addresses,
options, orders and keywords that are none.  `SettingsContents.settings` takes the first
valid addresses, the last of each number, the last order, and notes whether anything was
unknown.  The reader works line by line and keeps only a partial result; its invariant is
that the result is the one for the contents of the lines read so far.
-/

import Mathlib.Data.List.Basic
import Mathlib.Data.List.Induction
import ResolverChoice.Proofs.SettingsFault

namespace ResolverChoice

/-! ### Statements -/

/-- A line that is neither blank nor a comment: its first word and the words after it. -/
structure Statement where
  keyword : Text
  arguments : List Text

namespace Statement

def ofLine? (line : Text) : Option Statement :=
  if line.head? = some (.char '#') ∨ line.head? = some (.char ';') then none
  else
    match Text.words line with
    | [] => none
    | keyword :: arguments => some { keyword := keyword, arguments := arguments }

def ofText (text : Text) : List Statement :=
  (Text.lines text).filterMap ofLine?

def knownKeywords : List Text :=
  ["nameserver", "options", "lookup", "domain", "search"].map Text.ofString

def isKnown (statement : Statement) : Bool :=
  knownKeywords.contains statement.keyword

theorem isKnown_iff (statement : Statement) :
    statement.isKnown = true ↔
      statement.keyword = Text.ofString "nameserver" ∨
        statement.keyword = Text.ofString "options" ∨
          statement.keyword = Text.ofString "lookup" ∨
            statement.keyword = Text.ofString "domain" ∨
              statement.keyword = Text.ofString "search" := by
  simp only [isKnown, knownKeywords, List.contains_iff_mem, List.map_cons, List.map_nil,
    List.mem_cons, List.not_mem_nil, or_false]

/-- The arguments of each statement with the keyword. -/
def argumentsOf (keyword : String) (statements : List Statement) : List (List Text) :=
  (statements.filter (fun statement => statement.keyword = Text.ofString keyword)).map
    (·.arguments)

end Statement

/-! ### Contents -/

/-- The labels of the options that have a number. -/
def ResolverOption.numberLabels : List String :=
  ["ndots:", "timeout:", "attempts:"]

/-- Neither a number with its label nor one of the words that are passed over. -/
def IsUnknownOption (word : Text) : Prop :=
  (∀ label ∈ ResolverOption.numberLabels, ¬Text.ofString label <+: word) ∧
    word ∉ ResolverOption.ignoredWords

instance (word : Text) : Decidable (IsUnknownOption word) :=
  inferInstanceAs (Decidable (_ ∧ _))

/-- What the statements of a file list, in file order. -/
structure SettingsContents where
  /-- The first argument of each nameserver line. -/
  addresses : List Text
  /-- The words of all options lines. -/
  options : List Text
  /-- The arguments of each lookup line. -/
  orders : List (List Text)
  unknownKeywords : List Text

namespace SettingsContents

def ofStatements (statements : List Statement) : SettingsContents :=
  { addresses := (Statement.argumentsOf "nameserver" statements).filterMap List.head?
    options := (Statement.argumentsOf "options" statements).flatten
    orders := Statement.argumentsOf "lookup" statements
    unknownKeywords :=
      (statements.filter (fun statement => !statement.isKnown)).map (·.keyword) }

def ofText (text : Text) : SettingsContents :=
  ofStatements (Statement.ofText text)

/-- An address of either version with the port of name servers; one of version six stands
in brackets. -/
def withPort? (address : Text) : Option Text :=
  (Address.version? address).map (fun version =>
    match version with
    | .four => address ++ Text.ofString ":53"
    | .six => .char '[' :: address ++ Text.ofString "]:53")

/-- The first three addresses.  Those that are none do not count towards the three. -/
def servers (contents : SettingsContents) : List Text :=
  (contents.addresses.filterMap withPort?).take 3

/-- The number of the last option with the label. -/
def lastNumber? (contents : SettingsContents) (label : String) : Option Nat :=
  (contents.options.filterMap (·.dropPrefix? (Text.ofString label))).getLast?.map
    (fun value => decimalNumber (ResolverSettings.leadingDigits value))

def HasUnknown (contents : SettingsContents) : Prop :=
  contents.unknownKeywords ≠ [] ∨ ∃ word ∈ contents.options, IsUnknownOption word

instance (contents : SettingsContents) : Decidable contents.HasUnknown :=
  inferInstanceAs (Decidable (_ ∨ _))

/-- The settings that a file with these contents gives. -/
def settings (contents : SettingsContents) : ResolverSettings :=
  { servers :=
      if contents.servers = [] then ["127.0.0.1:53", "[::1]:53"].map Text.ofString
      else contents.servers
    ndots := ((contents.lastNumber? "ndots:").map (min · 15)).getD 1
    timeout := ((contents.lastNumber? "timeout:").map
      (fun seconds => Binary64.round (max seconds 1 : Nat))).getD 5
    attempts := ((contents.lastNumber? "attempts:").map (max · 1)).getD 2
    lookup := contents.orders.getLast?.getD []
    unknownOption := decide contents.HasUnknown }

end SettingsContents

/-! ### Options as words -/

namespace ResolverOption

theorem valueAfter?_eq_none_iff {label : String} {word : Text} :
    valueAfter? label word = none ↔ ¬Text.ofString label <+: word := by
  simp only [valueAfter?, ite_eq_right_iff, reduceCtorEq, imp_false, List.isPrefixOf_iff_prefix]

theorem valueAfter?_eq_some_iff {label : String} {word value : Text} :
    valueAfter? label word = some value ↔ word = Text.ofString label ++ value := by
  unfold valueAfter?
  dsimp only
  constructor
  · intro found
    split at found
    · rename_i labelled
      obtain ⟨rest, rfl⟩ := List.isPrefixOf_iff_prefix.mp labelled
      rw [List.drop_left] at found
      rw [Option.some.inj found]
    · cases found
  · rintro rfl
    rw [if_pos (List.isPrefixOf_iff_prefix.mpr (List.prefix_append _ _)), List.drop_left]

theorem valueAfter?_eq_dropPrefix? (label : String) (word : Text) :
    valueAfter? label word = word.dropPrefix? (Text.ofString label) := by
  apply Option.ext
  intro value
  rw [valueAfter?_eq_some_iff, List.dropPrefix?_eq_some_iff]
  simp only [beq_iff_eq, exists_eq_right]

/-- The text of the option's number, if the number has the label. -/
def valueFor? (label : String) : ResolverOption → Option Text
  | .ndots value => if label = "ndots:" then some value else none
  | .timeout value => if label = "timeout:" then some value else none
  | .attempts value => if label = "attempts:" then some value else none
  | .ignored => none
  | .unknown => none

/-- A word begins with no label but one. -/
theorem valueAfter?_of_found {label other : String} {word value : Text}
    (listed : label ∈ numberLabels) (otherListed : other ∈ numberLabels)
    (found : valueAfter? other word = some value) :
    valueAfter? label word = if label = other then some value else none := by
  have apart : ∀ label ∈ numberLabels, ∀ other ∈ numberLabels,
      Text.ofString label <+: Text.ofString other → label = other := by decide
  have begins : Text.ofString other <+: word :=
    ⟨value, (valueAfter?_eq_some_iff.mp found).symm⟩
  split
  · rename_i same
    rw [same, found]
  · rename_i different
    rw [valueAfter?_eq_none_iff]
    intro alsoBegins
    rcases List.prefix_or_prefix_of_prefix alsoBegins begins with inside | inside
    · exact different (apart label listed other otherListed inside)
    · exact different (apart other otherListed label listed inside).symm

/-- The order in which the labels are tried makes no difference. -/
theorem valueAfter?_eq_valueFor? {label : String} (listed : label ∈ numberLabels)
    (word : Text) : valueAfter? label word = (ofWord word).valueFor? label := by
  unfold ofWord
  split
  · rename_i value found
    exact valueAfter?_of_found listed (by decide) found
  · rename_i noNdots
    split
    · rename_i value found
      exact valueAfter?_of_found listed (by decide) found
    · rename_i noTimeout
      split
      · rename_i value found
        exact valueAfter?_of_found listed (by decide) found
      · rename_i noAttempts
        have missing : ∀ label ∈ numberLabels, valueAfter? label word = none := by
          simp only [numberLabels, List.forall_mem_cons, noNdots, noTimeout, noAttempts,
            List.not_mem_nil, false_imp_iff, implies_true, and_self]
        rw [missing label listed]
        split <;> rfl

theorem isUnknownOption_iff (word : Text) : IsUnknownOption word ↔ ofWord word = .unknown := by
  simp only [IsUnknownOption, numberLabels, List.forall_mem_cons, List.not_mem_nil,
    false_imp_iff, implies_true, and_true, ← valueAfter?_eq_none_iff]
  unfold ofWord
  cases valueAfter? "ndots:" word with
  | some value => simp
  | none =>
      cases valueAfter? "timeout:" word with
      | some value => simp
      | none =>
          cases valueAfter? "attempts:" word with
          | some value => simp
          | none => by_cases ignored : word ∈ ignoredWords <;> simp [ignored]

end ResolverOption

/-! ### Reading on -/

namespace SettingsContents

open ResolverSettings

/-- What the reader holds after lines with these contents.  The servers that stand in for
none are put in at the end. -/
def reached (contents : SettingsContents) : ResolverSettings :=
  { contents.settings with servers := contents.servers }

theorem withServers_reached (contents : SettingsContents) :
    contents.reached.withServers = contents.settings := by
  unfold withServers reached settings
  cases contents.servers with
  | nil => rfl
  | cons server others => rfl

section

variable (contents : SettingsContents)

def addOption (word : Text) : SettingsContents :=
  { contents with options := contents.options ++ [word] }

theorem lastNumber?_addOption (label : String) (word : Text) :
    (contents.addOption word).lastNumber? label =
      ((ResolverOption.valueAfter? label word).map
        (fun value => decimalNumber (leadingDigits value))).or
          (contents.lastNumber? label) := by
  unfold lastNumber? addOption
  rw [List.filterMap_append, List.getLast?_append, Option.map_or,
    ResolverOption.valueAfter?_eq_dropPrefix?]
  cases found : word.dropPrefix? (Text.ofString label) with
  | none => simp [found]
  | some value => simp [found]

theorem hasUnknown_addOption (word : Text) :
    (contents.addOption word).HasUnknown ↔
      contents.HasUnknown ∨ ResolverOption.ofWord word = .unknown := by
  simp only [HasUnknown, addOption, List.mem_append, List.mem_singleton, or_and_right,
    exists_or, exists_eq_left, or_assoc, ResolverOption.isUnknownOption_iff]

theorem servers_addOption (word : Text) : (contents.addOption word).servers = contents.servers :=
  rfl

theorem readTimeout_of_readable {value : Text} (readable : HasReadableTimeout value) :
    readTimeout value =
      .ok (Binary64.round (max (decimalNumber (leadingDigits value)) 1 : Nat)) := by
  rw [readTimeout_of_number readable.toHasReadableNumber,
    if_neg (Nat.not_le.mpr readable.fits)]

theorem applyOption_reached {word : Text} (readable : (ResolverOption.ofWord word).IsReadable) :
    contents.reached.applyOption word = .ok (contents.addOption word).reached := by
  unfold applyOption reached settings
  have numbered : ∀ label ∈ ResolverOption.numberLabels, ResolverOption.valueAfter? label word =
      (ResolverOption.ofWord word).valueFor? label :=
    fun _ listed => ResolverOption.valueAfter?_eq_valueFor? listed word
  simp only [ResolverOption.numberLabels, List.forall_mem_cons] at numbered
  simp only [lastNumber?_addOption, hasUnknown_addOption, servers_addOption, numbered]
  -- An option sets the one field that its label names.
  cases kind : ResolverOption.ofWord word with
  | ndots value =>
      rw [kind] at readable
      simp only [leadingNumber_of_readable readable, reduceCtorEq, or_false]
      rfl
  | timeout value =>
      rw [kind] at readable
      simp only [readTimeout_of_readable readable, reduceCtorEq, or_false]
      rfl
  | attempts value =>
      rw [kind] at readable
      simp only [leadingNumber_of_readable readable, reduceCtorEq, or_false]
      rfl
  | ignored =>
      simp only [reduceCtorEq, or_false]
      rfl
  | unknown =>
      simp only [or_true, decide_true]
      rfl

theorem foldlM_applyOption_reached {words : List Text}
    (readable : ∀ word ∈ words, (ResolverOption.ofWord word).IsReadable) :
    words.foldlM applyOption contents.reached =
      .ok ({ contents with options := contents.options ++ words } : SettingsContents).reached := by
  induction words generalizing contents with
  | nil =>
      rw [List.append_nil]
      rfl
  | cons word rest ih =>
      obtain ⟨first, others⟩ := List.forall_mem_cons.mp readable
      have later := ih (contents.addOption word) others
      rw [List.foldlM_cons, applyOption_reached contents first]
      simp only [addOption, List.append_assoc, List.singleton_append] at later ⊢
      exact later

/-! ### Statements one by one -/

/-- The contents after one more statement. -/
def addStatement (statement : Statement) : SettingsContents :=
  if statement.keyword = Text.ofString "nameserver" then
    { contents with addresses := contents.addresses ++ statement.arguments.head?.toList }
  else if statement.keyword = Text.ofString "options" then
    { contents with options := contents.options ++ statement.arguments }
  else if statement.keyword = Text.ofString "lookup" then
    { contents with orders := contents.orders ++ [statement.arguments] }
  else if statement.isKnown then contents
  else { contents with unknownKeywords := contents.unknownKeywords ++ [statement.keyword] }

theorem argumentsOf_concat (keyword : String) (statements : List Statement)
    (statement : Statement) :
    Statement.argumentsOf keyword (statements ++ [statement]) =
      Statement.argumentsOf keyword statements ++
        if statement.keyword = Text.ofString keyword then [statement.arguments] else [] := by
  simp only [Statement.argumentsOf, List.filter_append, List.map_append, List.filter_cons,
    List.filter_nil, decide_eq_true_eq]
  split
  · rfl
  · rfl

theorem ofStatements_concat (statements : List Statement) (statement : Statement) :
    ofStatements (statements ++ [statement]) =
      (ofStatements statements).addStatement statement := by
  obtain ⟨keyword, arguments⟩ := statement
  unfold ofStatements addStatement
  simp only [argumentsOf_concat, List.filterMap_append, List.flatten_append, List.map_append,
    List.filter_append]
  by_cases nameserver : keyword = Text.ofString "nameserver"
  · subst nameserver
    cases arguments with
    | nil => simp +decide
    | cons address others => simp +decide [Statement.isKnown_iff]
  · by_cases options : keyword = Text.ofString "options"
    · subst options
      simp +decide [Statement.isKnown_iff]
    · by_cases lookup : keyword = Text.ofString "lookup"
      · subst lookup
        simp +decide [Statement.isKnown_iff]
      · by_cases known : ({ keyword, arguments } : Statement).isKnown
        · simp [nameserver, options, lookup, known]
        · simp [nameserver, options, lookup, known]

def addAddress (address : Text) : SettingsContents :=
  { contents with addresses := contents.addresses ++ [address] }

theorem serverAt?_eq_withPort? (address : Text) : serverAt? address = withPort? address := by
  unfold serverAt? withPort?
  cases Address.version? address with
  | none => rfl
  | some version =>
      cases version with
      | four => rfl
      | six => rfl

/-- An address is added while there is room, and only a valid one takes any. -/
theorem servers_addAddress (address : Text) :
    (contents.addAddress address).servers =
      if contents.servers.length < 3 then contents.servers ++ (withPort? address).toList
      else contents.servers := by
  have alone : [address].filterMap withPort? = (withPort? address).toList := by
    cases found : withPort? address <;> simp [found]
  have atMostOne : (withPort? address).toList.length ≤ 1 := by
    rw [← alone]
    exact List.length_filterMap_le _ _
  unfold servers addAddress
  rw [List.filterMap_append, alone, List.length_take]
  split
  · rename_i room
    rw [List.take_of_length_le, List.take_of_length_le]
    · omega
    · rw [List.length_append]
      omega
  · rename_i full
    rw [List.take_append_of_le_length]
    omega

theorem addServer_reached (address : Text) :
    contents.reached.addServer address = (contents.addAddress address).reached := by
  unfold addServer reached maximumServers
  rw [servers_addAddress, serverAt?_eq_withPort?]
  dsimp only
  split
  · rfl
  · rfl

theorem apply_reached {statement : Statement}
    (readable : ∀ word ∈ (Directive.ofWords statement.keyword statement.arguments).optionWords,
      (ResolverOption.ofWord word).IsReadable) :
    contents.reached.apply (Directive.ofWords statement.keyword statement.arguments) =
      .ok (contents.addStatement statement).reached := by
  obtain ⟨keyword, arguments⟩ := statement
  unfold Directive.ofWords at *
  unfold addStatement
  dsimp only at *
  split
  · -- Only the first argument counts, if there is one.
    cases arguments with
    | nil =>
        rw [List.head?_nil, Option.toList_none, List.append_nil]
        rfl
    | cons address others => exact congrArg Except.ok (addServer_reached contents address)
  · split
    · rename_i nameserver options
      rw [if_neg nameserver, if_pos options] at readable
      exact foldlM_applyOption_reached contents readable
    · split
      · unfold reached settings
        simp only [List.getLast?_append, List.getLast?_singleton, Option.some_or,
          Option.getD_some]
        rfl
      · rename_i nameserver options lookup
        simp only [Statement.isKnown_iff, nameserver, options, lookup, false_or]
        split
        · rfl
        · have noted : ({ contents with
              unknownKeywords := contents.unknownKeywords ++ [keyword] } :
                SettingsContents).HasUnknown :=
            Or.inl (List.append_ne_nil_of_right_ne_nil _ (List.cons_ne_nil keyword []))
          unfold reached settings
          rw [decide_eq_true noted]
          rfl

end

end SettingsContents

/-! ### Lines and files -/

namespace ResolverSettings

theorem ofLine?_eq_map (line : Text) :
    Directive.ofLine? line =
      (Statement.ofLine? line).map
        (fun statement => Directive.ofWords statement.keyword statement.arguments) := by
  unfold Directive.ofLine? Directive.isComment Statement.ofLine?
  simp only [Bool.or_eq_true, beq_iff_eq]
  split
  · rfl
  · cases Text.words line with
    | nil => rfl
    | cons keyword arguments => rfl

/-- The invariant of the reader. -/
theorem foldlM_applyLine_eq_reached {lines : List Text}
    (readable : ∀ word ∈ lines.flatMap lineOptionWords,
      (ResolverOption.ofWord word).IsReadable) :
    lines.foldlM applyLine { servers := [] } =
      .ok (SettingsContents.ofStatements (lines.filterMap Statement.ofLine?)).reached := by
  -- From the end, since the result so far is the one for the lines that were read.
  induction lines using List.reverseRecOn with
  | nil => rfl
  | append_singleton lines line ih =>
      rw [List.flatMap_append, List.forall_mem_append, List.flatMap_singleton] at readable
      have before := ih readable.1
      have last := readable.2
      unfold lineOptionWords at last
      rw [ofLine?_eq_map] at last
      rw [List.foldlM_append, before, List.filterMap_append]
      change applyLine _ line >>= pure = _
      rw [bind_pure]
      unfold applyLine
      rw [ofLine?_eq_map]
      cases found : Statement.ofLine? line with
      | none =>
          rw [List.filterMap_cons_none found, List.filterMap_nil, List.append_nil]
          rfl
      | some statement =>
          rw [found] at last
          rw [List.filterMap_cons_some found, List.filterMap_nil,
            SettingsContents.ofStatements_concat]
          exact SettingsContents.apply_reached _ last

theorem ofText_of_readable {text : Text} (readable : IsReadableText text) :
    ofText text = .ok (SettingsContents.ofText text).settings := by
  unfold ofText
  rw [foldlM_applyLine_eq_reached readable]
  exact congrArg Except.ok (SettingsContents.withServers_reached _)

/-- A text is read as the settings that its contents give, and only a number that cannot
be read keeps it from being read. -/
theorem ofText_eq_ok_iff_contents (text : Text) (settings : ResolverSettings) :
    ofText text = .ok settings ↔
      IsReadableText text ∧ settings = (SettingsContents.ofText text).settings := by
  constructor
  · intro read
    have readable := (ofText_exists_iff_readable text).mp ⟨settings, read⟩
    rw [ofText_of_readable readable] at read
    exact ⟨readable, (Except.ok.inj read).symm⟩
  · rintro ⟨readable, rfl⟩
    exact ofText_of_readable readable

/-- An address that is none takes no room, a fourth one is too many, a comment says nothing,
and a later number wins. -/
def crowdedText : Text :=
  [.char '\n'].intercalate
    (["options ndots:3 timeout:07x", "nameserver 192.0.2.1", "nameserver 192.0.2.256",
      "nameserver ::1 192.0.2.2", "lookup bind", ";lookup file", "nameserver 192.0.2.3",
      "nameserver 192.0.2.4", "options ndots:99 rotate attempts:"].map Text.ofString)

theorem ofText_crowdedText :
    ∃ settings, ofText crowdedText = .ok settings ∧
      settings.servers =
        ["192.0.2.1:53", "[::1]:53", "192.0.2.3:53"].map Text.ofString ∧
      settings.ndots = 15 ∧ settings.timeout = 7 ∧ settings.attempts = 1 ∧
      settings.lookup = [Text.ofString "bind"] ∧ settings.unknownOption = false := by
  have readable : IsReadableText crowdedText := by
    rw [← ofText_exists_iff_readable, exists_ok_iff_faultOf?_eq_none]
    decide +kernel
  refine ⟨_, (ofText_eq_ok_iff_contents crowdedText _).mpr ⟨readable, rfl⟩, ?_⟩
  decide +kernel

end ResolverSettings

end ResolverChoice
