import Codemod.Proofs.Settings.Merging

/-!
# Settings by their kinds

Every setting stands under a path of one or two keys and has a kind, which says what its values are
and how they are written. A tree in which there is nothing or a value of its kind under the path of
every setting is read, setting by setting; what is not there has its default.

- `Kind`, `Kind.Reads` — the kinds, and the values that are written in a file or a variable
- `Setting` — the settings, with `path`, `kind` and `get`
- `Kind.Reads.ofTree_eq` — reading a value
- `Tree.Offers`, `ofTree_eq` — reading all settings
-/

namespace Codemod.Settings

variable {v : Json} {s : String} {ds : List Char} {n : Nat} {t : Tree} {key : String}

/-! ### Kinds of settings -/

/-- What a setting holds. -/
inductive Kind where
  | text
  | optionalText
  | texts
  | word32
  | word64

/-- The values of a kind. -/
abbrev Kind.Value : Kind → Type
  | text => String
  | optionalText => Option String
  | texts => List String
  | word32 => UInt32
  | word64 => UInt64

/-- A value stands for a number: the number itself, its digits, or a word for one or zero. -/
inductive Denotes : Json → Nat → Prop
  | number (n : Nat) : Denotes (.int n) n
  | digits {s : String} {ds : List Char} : ds ≠ [] → (∀ c ∈ ds, c.isDigit = true) →
    s.toList = ds ∨ s.toList = '+' :: ds → Denotes (.string s) (Nat.ofDigitChars 10 ds 0)
  | on {s : String} : s.toLower ∈ ["true", "on", "yes"] → Denotes (.string s) 1
  | off {s : String} : s.toLower ∈ ["false", "off", "no"] → Denotes (.string s) 0

/-- A value has the type of a kind and stands for a value of the kind. -/
inductive Kind.Reads : (kind : Kind) → Json → kind.Value → Prop
  | text (s : String) : Reads .text (.string s) s
  | optionalText (s : String) : Reads .optionalText (.string s) (some s)
  | nothing : Reads .optionalText .null none
  | texts (ss : List String) : Reads .texts (.array (ss.map .string)) ss
  | word32 {v : Json} {n : UInt32} : Denotes v n.toNat → Reads .word32 v n
  | word64 {v : Json} {n : UInt64} : Denotes v n.toNat → Reads .word64 v n

/-- A value of a kind as it is read from a tree. -/
def Kind.ofTree : (kind : Kind) → Tree → Except Misfit kind.Value
  | text => Tree.asText
  | optionalText => Tree.asOptionalText
  | texts => Tree.asTexts
  | word32 => Tree.asWord32
  | word64 => Tree.asWord64

/-! ### Reading a value -/

theorem toLower_of_isDigit {c : Char} (h : c.isDigit = true) : c.toLower = c := by
  rw [Char.isDigit, Bool.and_eq_true, decide_eq_true_eq, decide_eq_true_eq] at h
  refine dif_neg fun hupper => ?_
  exact absurd (UInt32.le_trans hupper.1 h.2) (by decide)

/-- Digits are no word. -/
theorem toLower_not_mem (hne : ds ≠ []) (hdigits : ∀ c ∈ ds, c.isDigit = true)
    (hs : s.toList = ds ∨ s.toList = '+' :: ds) {words : List String}
    (hwords : ∀ word ∈ words, word.toList.head?.any (fun c => c.isDigit || c == '+') = false) :
    s.toLower ∉ words := by
  intro hmem
  have hlist : s.toLower.toList = s.toList.map Char.toLower := String.toList_map
  have hhead : s.toLower.toList.head?.any (fun c => c.isDigit || c == '+') = true := by
    obtain ⟨d, rest, rfl⟩ := List.exists_cons_of_ne_nil hne
    have hd := hdigits d List.mem_cons_self
    obtain hs | hs := hs
    · rw [hlist, hs, List.map_cons, List.head?_cons, toLower_of_isDigit hd, Option.any_some, hd]
      rfl
    · rw [hlist, hs]
      rfl
  rw [hwords _ hmem] at hhead
  cases hhead

theorem digitsValue_eq (ds : List Char) : Decimal.digitsValue ds = Nat.ofDigitChars 10 ds 0 := by
  rw [Decimal.digitsValue, Nat.ofDigitChars_eq_foldl]
  congr 1
  funext n c
  rw [Nat.mul_comm]
  rfl

/-- A text in digits is read as their number, if it has 64 bits. -/
theorem naturalOfText?_of_digits (hne : ds ≠ []) (hdigits : ∀ c ∈ ds, c.isDigit = true)
    (hs : s.toList = ds ∨ s.toList = '+' :: ds) (hfits : Nat.ofDigitChars 10 ds 0 < 2 ^ 64) :
    Scalar.naturalOfText? s = some (Nat.ofDigitChars 10 ds 0) := by
  have hon : s.toLower ∉ ["true", "on", "yes"] :=
    toLower_not_mem hne hdigits hs (by decide)
  have hoff : s.toLower ∉ ["false", "off", "no"] :=
    toLower_not_mem hne hdigits hs (by decide)
  have hgood : ¬(ds.isEmpty || !ds.all Char.isDigit) = true := by
    rw [Bool.or_eq_true, not_or, List.isEmpty_iff, Bool.not_eq_true', Bool.not_eq_false,
      List.all_eq_true]
    exact ⟨hne, hdigits⟩
  unfold Scalar.naturalOfText?
  simp only [List.contains_iff_mem, hon, hoff, if_false]
  obtain hs | hs := hs
  · have hplain : ∀ more, s.toList ≠ '+' :: more := by
      intro more hmore
      rw [hs] at hmore
      rw [hmore] at hdigits
      exact absurd (hdigits '+' List.mem_cons_self) (by decide)
    split
    · next more hmore => exact absurd hmore (hplain more)
    · rw [hs, if_neg hgood, digitsValue_eq, if_pos hfits]
  · simp only [hs]
    rw [if_neg hgood, digitsValue_eq, if_pos hfits]

/-- A number that a value stands for is read from its tree, if it has 64 bits. -/
theorem Denotes.asNatural_eq (h : Denotes v n) (hfits : n < 2 ^ 64) (origin : String) :
    (Tree.ofJson origin v).asNatural = .ok n := by
  have htext {s : String} {n : Nat} (hread : Scalar.naturalOfText? s = some n) :
      (Tree.ofJson origin (.string s)).asNatural = .ok n := by
    simp [Tree.ofJson, Tree.asNatural, Scalar.asNatural, hread, Except.mapError]
  cases h with
  | number n => simp [Tree.ofJson, Tree.asNatural, Scalar.asNatural, Except.mapError]
  | digits hne hdigits hs => exact htext (naturalOfText?_of_digits hne hdigits hs hfits)
  | @on s hs =>
    refine htext ?_
    unfold Scalar.naturalOfText?
    rw [if_pos (List.contains_iff_mem.mpr hs)]
  | @off s hs =>
    refine htext ?_
    have hon : s.toLower ∉ ["true", "on", "yes"] := by
      intro hmem
      exact absurd rfl ((by decide : ∀ a ∈ ["false", "off", "no"], ∀ b ∈ ["true", "on", "yes"],
        a ≠ b) _ hs _ hmem)
    unfold Scalar.naturalOfText?
    rw [if_neg (by rwa [List.contains_iff_mem]), if_pos (List.contains_iff_mem.mpr hs)]

theorem textsFrom_eq (origin : String) (ss : List String) (i : Nat) :
    Tree.textsFrom i (Tree.ofItems origin (ss.map .string)) = .ok ss := by
  induction ss generalizing i with
  | nil => rfl
  | cons s ss ih =>
    rw [List.map_cons, Tree.ofItems, Tree.textsFrom, ih]
    rfl

/-- A value of a kind is read as what it stands for. -/
theorem Kind.Reads.ofTree_eq {kind : Kind} {x : kind.Value} (h : kind.Reads v x)
    (origin : String) : kind.ofTree (Tree.ofJson origin v) = .ok x := by
  cases h with
  | text s => rfl
  | optionalText s => rfl
  | nothing => rfl
  | texts ss => exact textsFrom_eq origin ss 0
  | @word32 v x hv =>
    have hsmall := UInt32.toNat_lt x
    rw [Kind.ofTree, Tree.asWord32, hv.asNatural_eq (by omega)]
    show (if x.toNat < 2 ^ 32 then _ else _) = _
    rw [if_pos hsmall]
    simp
  | @word64 v x hv =>
    rw [Kind.ofTree, Tree.asWord64, hv.asNatural_eq (UInt64.toNat_lt x)]
    simp [Except.map]

/-- A value stands for one value of a kind. -/
theorem Kind.Reads.unique {kind : Kind} {x y : kind.Value} (h : kind.Reads v x)
    (h' : kind.Reads v y) : x = y :=
  Except.ok.inj ((h.ofTree_eq "").symm.trans (h'.ofTree_eq ""))

theorem Denotes.cover_eq (h : Denotes v n) (origin : String) (t : Tree) :
    Tree.cover (Tree.ofJson origin v) t = Tree.ofJson origin v := by
  cases h <;> rfl

/-- A value of a kind replaces what it comes over. -/
theorem Kind.Reads.cover_eq {kind : Kind} {x : kind.Value} (h : kind.Reads v x) (origin : String)
    (t : Tree) : Tree.cover (Tree.ofJson origin v) t = Tree.ofJson origin v := by
  cases h with
  | text s => rfl
  | optionalText s => rfl
  | nothing => rfl
  | texts ss => rfl
  | word32 h => exact h.cover_eq origin t
  | word64 h => exact h.cover_eq origin t

/-! ### The settings -/

/-- The settings of a workspace. -/
inductive Setting where
  | ignorePatterns
  | contextGlob
  | program
  | arguments
  | timeout
  | heartbeat
  | maxAttempts
  | retryBackoff
  | scratchDirectory
  | credential
  | maxFixAttempts
  | lintCommand
  | testCommand
deriving DecidableEq

namespace Setting

/-- The keys that lead to a setting: that of its section, if it is in one, and its own. -/
def path : Setting → List String
  | ignorePatterns => ["ignore_patterns"]
  | contextGlob => ["context_glob"]
  | program => ["llm", "program"]
  | arguments => ["llm", "args"]
  | timeout => ["llm", "timeout_secs"]
  | heartbeat => ["llm", "heartbeat_secs"]
  | maxAttempts => ["llm", "max_attempts"]
  | retryBackoff => ["llm", "retry_backoff_ms"]
  | scratchDirectory => ["llm", "scratch_dir"]
  | credential => ["llm", "api_key_env"]
  | maxFixAttempts => ["verify", "max_fix_attempts"]
  | lintCommand => ["commands", "lint"]
  | testCommand => ["commands", "test"]

/-- What a setting holds. -/
def kind : Setting → Kind
  | ignorePatterns | arguments => .texts
  | contextGlob | program => .text
  | maxAttempts | maxFixAttempts => .word32
  | timeout | heartbeat | retryBackoff => .word64
  | scratchDirectory | credential | lintCommand | testCommand => .optionalText

/-- The value of a setting. -/
def get (settings : Settings) : (setting : Setting) → setting.kind.Value
  | ignorePatterns => settings.ignorePatterns
  | contextGlob => settings.contextGlob
  | program => settings.tool.program
  | arguments => settings.tool.arguments
  | timeout => settings.tool.timeoutSeconds
  | heartbeat => settings.tool.heartbeatSeconds
  | maxAttempts => settings.tool.maxAttempts
  | retryBackoff => settings.tool.retryBackoffMilliseconds
  | scratchDirectory => settings.tool.scratchDirectory
  | credential => settings.tool.credential
  | maxFixAttempts => settings.verify.maxFixAttempts
  | lintCommand => settings.commands.lint
  | testCommand => settings.commands.test

/-- The settings with given values. -/
def assemble (value : (setting : Setting) → setting.kind.Value) : Settings where
  ignorePatterns := value ignorePatterns
  contextGlob := value contextGlob
  tool := {
    program := value program
    arguments := value arguments
    timeoutSeconds := value timeout
    heartbeatSeconds := value heartbeat
    maxAttempts := value maxAttempts
    retryBackoffMilliseconds := value retryBackoff
    scratchDirectory := value scratchDirectory
    credential := value credential }
  verify := { maxFixAttempts := value maxFixAttempts }
  commands := { lint := value lintCommand, test := value testCommand }

@[simp] theorem get_assemble (value : (setting : Setting) → setting.kind.Value)
    (setting : Setting) : setting.get (assemble value) = value setting := by
  cases setting <;> rfl

/-- No setting lies on the way to another. -/
theorem eq_of_prefix {a b : Setting} (h : a.path <+: b.path) : a = b := by
  cases a <;> cases b <;> revert h <;> decide

/-- The path of a setting begins with a key. -/
theorem exists_path (setting : Setting) : ∃ key rest, setting.path = key :: rest := by
  cases setting <;> exact ⟨_, _, rfl⟩

end Setting

/-! ### Reading all settings -/

namespace Tree

/-- The tree is a table. -/
def IsTable (t : Tree) : Prop := ∃ origin entries, t = .table origin entries

/-- At a path there stands nothing, and the default is wanted, or what is read as the value that is
wanted. -/
def Offers {α : Type} (t : Tree) (path : List String) (read : Tree → Except Misfit α)
    (default wanted : α) : Prop :=
  at? path t = none ∧ wanted = default ∨ ∃ u, at? path t = some u ∧ read u = .ok wanted

theorem setting_eq {α : Type} {read : Tree → Except Misfit α} {default wanted : α}
    (htable : t.IsTable) (h : t.Offers [key] read default wanted) (i : Nat) :
    t.setting i key default read = .ok wanted := by
  obtain ⟨origin, entries, rfl⟩ := htable
  have hat : at? [key] (.table origin entries) = entries.lookup key := Option.bind_fun_some _
  unfold Offers at h
  rw [hat] at h
  obtain ⟨hnone, rfl⟩ | ⟨u, hu, hread⟩ := h
  · simp only [setting, hnone]
  · simp only [setting, hu, hread]
    rfl

/-- What a section offers, the tree offers below the section's key. -/
theorem Offers.of_section {α : Type} {read : Tree → Except Misfit α} {default wanted : α}
    {inner : String} (h : t.Offers [key, inner] read default wanted) :
    ((at? [key] t).getD (.table none [])).Offers [inner] read default wanted := by
  have hat : at? [inner] ((at? [key] t).getD (.table none [])) = at? [key, inner] t := by
    have hsplit : at? [key, inner] t = (at? [key] t).bind (at? [inner]) := at?_append [key] _ t
    rw [hsplit]
    cases at? [key] t <;> rfl
  unfold Offers at h ⊢
  rwa [hat]

/-- A section that is read from its table, or from an empty one when it is not there, is what the
tree offers under its key. -/
theorem offers_section {α : Type} {default wanted : α} (name : String)
    (read : Tree → Except Misfit α) (htable : ∀ u, at? [key] t = some u → u.IsTable)
    (hdefault : read (.table none []) = .ok default)
    (h : read ((at? [key] t).getD (.table none [])) = .ok wanted) :
    t.Offers [key] (asSection name read) default wanted := by
  cases hsection : at? [key] t with
  | none =>
    rw [hsection, Option.getD_none, hdefault] at h
    exact .inl ⟨hsection, (Except.ok.inj h).symm⟩
  | some u =>
    obtain ⟨origin, entries, rfl⟩ := htable u hsection
    rw [hsection, Option.getD_some] at h
    exact .inr ⟨_, hsection, h⟩

theorem isTable_getD (htable : ∀ u, at? [key] t = some u → u.IsTable) :
    ((at? [key] t).getD (.table none [])).IsTable := by
  cases hsection : at? [key] t with
  | none => exact ⟨none, [], rfl⟩
  | some u => exact htable u hsection

end Tree

theorem bind_eq_of_ok {α β : Type} {x : Except Misfit α} {f : α → Except Misfit β} {a : α}
    {r : Except Misfit β} (h : x = .ok a) (hf : f a = r) : x >>= f = r := by
  rw [h]
  exact hf

variable {value : (setting : Setting) → setting.kind.Value}

/-- A tree that offers a value of its kind or nothing for every setting is read as the settings with
these values, and the defaults where there is nothing. -/
theorem ofTree_eq (htable : t.IsTable)
    (hsections : ∀ (setting : Setting) (key inner : String), setting.path = [key, inner] →
      ∀ u, Tree.at? [key] t = some u → u.IsTable)
    (h : ∀ setting : Setting,
      t.Offers setting.path setting.kind.ofTree (setting.get {}) (value setting)) :
    ofTree t = .ok (Setting.assemble value) := by
  have hllm := hsections .program "llm" "program" rfl
  have hverify := hsections .maxFixAttempts "verify" "max_fix_attempts" rfl
  have hcommands := hsections .lintCommand "commands" "lint" rfl
  have htool : toolOfTree ((Tree.at? ["llm"] t).getD (.table none [])) =
      .ok (Setting.assemble value).tool := by
    have hin := Tree.isTable_getD hllm
    exact bind_eq_of_ok (Tree.setting_eq hin (h .program).of_section 0) <|
      bind_eq_of_ok (Tree.setting_eq hin (h .arguments).of_section 1) <|
      bind_eq_of_ok (Tree.setting_eq hin (h .timeout).of_section 2) <|
      bind_eq_of_ok (Tree.setting_eq hin (h .heartbeat).of_section 3) <|
      bind_eq_of_ok (Tree.setting_eq hin (h .maxAttempts).of_section 4) <|
      bind_eq_of_ok (Tree.setting_eq hin (h .retryBackoff).of_section 5) <|
      bind_eq_of_ok (Tree.setting_eq hin (h .scratchDirectory).of_section 6) <|
      bind_eq_of_ok (Tree.setting_eq hin (h .credential).of_section 7) rfl
  have hfixing : verifyOfTree ((Tree.at? ["verify"] t).getD (.table none [])) =
      .ok (Setting.assemble value).verify := by
    have hin := Tree.isTable_getD hverify
    exact bind_eq_of_ok (Tree.setting_eq hin (h .maxFixAttempts).of_section 0) rfl
  have hdefaults : commandsOfTree ((Tree.at? ["commands"] t).getD (.table none [])) =
      .ok (Setting.assemble value).commands := by
    have hin := Tree.isTable_getD hcommands
    exact bind_eq_of_ok (Tree.setting_eq hin (h .lintCommand).of_section 0) <|
      bind_eq_of_ok (Tree.setting_eq hin (h .testCommand).of_section 1) rfl
  exact bind_eq_of_ok (Tree.setting_eq htable (h .ignorePatterns) 0) <|
    bind_eq_of_ok (Tree.setting_eq htable (h .contextGlob) 1) <|
    bind_eq_of_ok (Tree.setting_eq htable
      (Tree.offers_section "LlmConfig" toolOfTree hllm rfl htool) 2) <|
    bind_eq_of_ok (Tree.setting_eq htable
      (Tree.offers_section "VerifyConfig" verifyOfTree hverify rfl hfixing) 3) <|
    bind_eq_of_ok (Tree.setting_eq htable
      (Tree.offers_section "CommandsConfig" commandsOfTree hcommands rfl hdefaults) 4) rfl

end Codemod.Settings
