import DataSource.Dialect

/-! The password of a data source name is not observed. Reading puts it into one field and never
looks at it again, and the attributes are made from a descriptor that has lost it. So what is
reported, an error included, is the same whatever the password is, even one that has separators. -/
namespace DataSource.Mysql

namespace Descriptor

/-- The descriptor with another password. -/
abbrev withPassword (descriptor : Descriptor) (password : Text) : Descriptor :=
  { descriptor with password }

/-! ## Reading after the credentials -/

theorem readNetwork_withPassword (descriptor : Descriptor) (password text : Text) :
    (descriptor.withPassword password).readNetwork text =
      (descriptor.readNetwork text).map (·.withPassword password) := by
  unfold readNetwork
  split
  · rfl
  · split
    · rfl
    · split <;> rfl

theorem readOption_withPassword (descriptor : Descriptor) (password : Text) (option : OptionName)
    (value : Text) :
    (descriptor.withPassword password).readOption option value =
      (descriptor.readOption option value).map (·.withPassword password) := by
  cases option with
  | flag flag =>
    simp only [readOption]
    cases truth? value <;> rfl
  | timeout timeout =>
    simp only [readOption]
    cases Duration.parse value <;> rfl
  | collation => rfl
  | connectionAttributes =>
    simp only [readOption]
    cases readField OptionName.connectionAttributes.text value <;> rfl
  | location =>
    simp only [readOption]
    cases readLocation value <;> rfl
  | maxAllowedPacket =>
    simp only [readOption]
    rcases Numeral.toInt? value with long | (_ | size) <;> rfl
  | serverPublicKey =>
    simp only [readOption]
    cases readField OptionName.serverPublicKey.text value <;> rfl
  | tls =>
    simp only [readOption]
    cases readTls value <;> rfl

theorem readParameter_withPassword (descriptor : Descriptor) (password text : Text) :
    (descriptor.withPassword password).readParameter text =
      (descriptor.readParameter text).map (·.withPassword password) := by
  unfold readParameter
  split
  · rfl
  · rename_i name value _
    unfold readAssignment
    split
    · exact readOption_withPassword ..
    · cases readField name value <;> rfl

/-- A whole list of parameters is read without a look at the password. -/
theorem foldlM_readParameter_withPassword (pieces : List Text) (descriptor : Descriptor)
    (password : Text) :
    pieces.foldlM readParameter (descriptor.withPassword password) =
      (pieces.foldlM readParameter descriptor).map (·.withPassword password) := by
  induction pieces generalizing descriptor with
  | nil => rfl
  | cons piece rest ih =>
    rw [List.foldlM_cons, List.foldlM_cons, readParameter_withPassword]
    cases descriptor.readParameter piece with
    | error error => rfl
    | ok next => exact ih next

theorem readDatabase_withPassword (descriptor : Descriptor) (password text : Text) :
    (descriptor.withPassword password).readDatabase text =
      (descriptor.readDatabase text).map (·.withPassword password) := by
  unfold readDatabase
  split <;> rfl

theorem complete_withPassword (descriptor : Descriptor) (password : Text) :
    (descriptor.withPassword password).complete =
      descriptor.complete.map (·.withPassword password) := by
  unfold complete
  by_cases forbidden : descriptor.flags .interpolateParams ∧ isUnsafeCollation descriptor.collation
  · rw [if_pos forbidden, if_pos forbidden]
    rfl
  · rw [if_neg forbidden, if_neg forbidden]
    by_cases missing : descriptor.address = []
    · rw [if_pos missing, if_pos missing]
      cases standardAddress?
        (if descriptor.network = [] then standardNetwork else descriptor.network) <;> rfl
    · rw [if_neg missing, if_neg missing]
      by_cases internet :
          (if descriptor.network = [] then standardNetwork else descriptor.network) = standardNetwork
      · rw [if_pos internet, if_pos internet]
        rfl
      · rw [if_neg internet, if_neg internet]
        rfl

/-! ## The credentials -/

/-- Wherever the last at sign before the network is, everything between the first colon and it is
the password; what precedes and what follows them is read alike for all passwords. -/
theorem exists_readAuthority {user : Text} (plain : ':' ∉ user) (front : Text) :
    ∃ extra network, ∀ password,
      readAuthority {} (user ++ ':' :: password ++ '@' :: front) =
        (readNetwork { user } network).map (·.withPassword (password ++ extra)) := by
  have read : ∀ secret network, '@' ∉ network →
      readAuthority {} (user ++ ':' :: secret ++ '@' :: network) =
        (readNetwork { user } network).map (·.withPassword secret) := by
    intro secret network absent
    have credentials : Text.divide ':' (user ++ ':' :: secret) = (user, secret) := by
      rw [Text.divide, Text.cut_eq_some.mpr ⟨rfl, plain⟩]
      rfl
    rw [readAuthority, Text.cutLast_eq_some.mpr ⟨rfl, absent⟩]
    simp only [credentials]
    exact readNetwork_withPassword { user } secret network
  cases found : Text.cutLast '@' front with
  | none =>
    refine ⟨[], front, fun password => ?_⟩
    rw [List.append_nil]
    exact read password front (Text.cutLast_eq_none.mp found)
  | some parts =>
    obtain ⟨more, network⟩ := parts
    obtain ⟨rfl, absent⟩ := Text.cutLast_eq_some.mp found
    refine ⟨'@' :: more, network, fun password => ?_⟩
    rw [← read (password ++ '@' :: more) network absent]
    simp only [List.append_assoc, List.cons_append]

/-- All data source names that differ in the password alone are read in the same way, up to the
field in which the password ends. -/
theorem exists_parse_credentials {user rest : Text} (plain : ':' ∉ user) (slash : '/' ∈ rest) :
    ∃ (outcome : Except Error Descriptor) (extra : Text), ∀ password,
      parse (user ++ ':' :: password ++ '@' :: rest) =
        Except.map (·.withPassword (password ++ extra)) outcome := by
  obtain ⟨front, after, found⟩ : ∃ front after, Text.cutLast '/' rest = some (front, after) := by
    cases found : Text.cutLast '/' rest with
    | none => exact absurd slash (Text.cutLast_eq_none.mp found)
    | some parts => exact ⟨parts.1, parts.2, rfl⟩
  obtain ⟨rfl, absent⟩ := Text.cutLast_eq_some.mp found
  obtain ⟨extra, network, authority⟩ := exists_readAuthority plain front
  let outcome : Except Error Descriptor := do
    let connected ← readNetwork { user } network
    let configured ← connected.readParameters (Text.divide '?' after).2
    let named ← configured.readDatabase (Text.divide '?' after).1
    named.complete
  refine ⟨outcome, extra, fun password => ?_⟩
  have cut : Text.cutLast '/' (user ++ ':' :: password ++ '@' :: (front ++ '/' :: after)) =
      some (user ++ ':' :: password ++ '@' :: front, after) :=
    Text.cutLast_eq_some.mpr ⟨by simp, absent⟩
  rw [parse, cut]
  simp only [outcome, authority, readParameters]
  cases readNetwork { user } network with
  | error error => rfl
  | ok connected =>
    simp only [Except.map, bind, Except.bind, foldlM_readParameter_withPassword]
    cases (List.splitOn '&' (Text.divide '?' after).2).foldlM readParameter connected with
    | error error => rfl
    | ok configured =>
      simp only [Except.map, readDatabase_withPassword]
      cases configured.readDatabase (Text.divide '?' after).1 with
      | error error => rfl
      | ok named => exact complete_withPassword named _

end Descriptor

theorem describe_mysql (defaults : Postgres.Defaults) (source : Text) :
    describe "mysql".toList defaults source = report source := by
  have dialect : Dialect.ofDriver? "mysql".toList = some .mysql := by decide
  rw [describe, dialect]
  rfl

/-- Two data source names that differ in the password alone give the same report, or they fail with
the same error; and the descriptors that they are read as are the same but for their passwords. -/
theorem describe_password_unobserved {user rest : Text} (plain : ':' ∉ user) (slash : '/' ∈ rest)
    (password other : Text) (defaults : Postgres.Defaults) :
    describe "mysql".toList defaults (user ++ ':' :: password ++ '@' :: rest) =
        describe "mysql".toList defaults (user ++ ':' :: other ++ '@' :: rest) ∧
      ((∃ error,
          Descriptor.parse (user ++ ':' :: password ++ '@' :: rest) = .error error ∧
            Descriptor.parse (user ++ ':' :: other ++ '@' :: rest) = .error error) ∨
        ∃ left right,
          Descriptor.parse (user ++ ':' :: password ++ '@' :: rest) = .ok left ∧
            Descriptor.parse (user ++ ':' :: other ++ '@' :: rest) = .ok right ∧
            left.withPassword right.password = right) := by
  obtain ⟨outcome, extra, read⟩ := Descriptor.exists_parse_credentials plain slash
  constructor
  · simp only [describe_mysql, report, read]
    cases outcome with
    | error error => rfl
    | ok descriptor => rfl
  · rw [read password, read other]
    cases outcome with
    | error error => exact Or.inl ⟨error, rfl, rfl⟩
    | ok descriptor => exact Or.inr ⟨_, _, rfl, rfl, rfl⟩

/-- Defaults that ask the machine nothing. -/
def silentDefaults : Postgres.Defaults :=
  ⟨[], false, ⟨fun _ => .ok false, .ok none⟩⟩

theorem describe_password_unobserved_separators :
    ':' ∉ "app".toList ∧ '/' ∈ "tcp(db:3306)/orders?timeout=30s".toList ∧
      describe "mysql".toList silentDefaults
          ("app".toList ++ ':' :: "p@ss/(w:rd)?".toList ++
            '@' :: "tcp(db:3306)/orders?timeout=30s".toList) =
        describe "mysql".toList silentDefaults
          ("app".toList ++ ':' :: "secret".toList ++
            '@' :: "tcp(db:3306)/orders?timeout=30s".toList) := by
  have plain : ':' ∉ "app".toList := by decide
  have slash : '/' ∈ "tcp(db:3306)/orders?timeout=30s".toList := by decide
  exact ⟨plain, slash, (describe_password_unobserved plain slash _ _ silentDefaults).1⟩

end DataSource.Mysql
