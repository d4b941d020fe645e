import DataSource.Proofs.LongNumbers
import DataSource.Proofs.Mysql.RoundTrip

/-! Addresses that got the standard port. On the standard network every address that is no endpoint
gets the port, whatever kept it from being one. That makes an endpoint of an address without
brackets and of one whose brackets enclose the host; brackets in any other place stay where they
are, and the address is no endpoint with the port either. -/
namespace DataSource.Mysql

namespace Descriptor
open Network.Endpoint

/-! ## Brackets -/

/-- The brackets of an address, if it has any, enclose the host: alone, or with a port that follows
them. A host without a colon may be enclosed twice, as one pair is taken off before the port is
added. -/
inductive HasSoundBrackets : Text → Prop where
  | unbracketed {address : Text} (plain : HasNoBracket address) : HasSoundBrackets address
  | alone {host : Text} (plain : HasNoBracket host) : HasSoundBrackets ('[' :: host ++ [']'])
  | twice {host : Text} (plain : HasNoBracket host) (single : ':' ∉ host) :
      HasSoundBrackets ('[' :: ('[' :: host ++ [']']) ++ [']'])
  | endpoint {host port : Text} (plainHost : HasNoBracket host)
      (plainPort : ':' ∉ port ∧ HasNoBracket port) :
      HasSoundBrackets ('[' :: host ++ ']' :: ':' :: port)

theorem standardPort_plain : ':' ∉ standardPort ∧ HasNoBracket standardPort := by decide

theorem exists_split_ensurePort_iff {address : Text} :
    (∃ parts, split (ensurePort address) = .ok parts) ↔
      (∃ parts, split address = .ok parts) ∨
        ∃ parts, split (join (withoutBrackets address) standardPort) = .ok parts := by
  unfold ensurePort
  cases found : split address with
  | ok parts => simp [found]
  | error malformed => simp

theorem withoutBrackets_enclosed (host : Text) : withoutBrackets ('[' :: host ++ [']']) = host := by
  have closed : ('[' :: host ++ [']']).getLast? = some ']' := List.getLast?_concat
  rw [withoutBrackets, if_pos ⟨rfl, closed⟩, List.cons_append, List.tail_cons,
    List.dropLast_concat]

/-- The two ways in which an address has a text without the enclosing brackets. -/
theorem eq_or_enclosed_withoutBrackets (address : Text) :
    address = withoutBrackets address ∨ address = '[' :: withoutBrackets address ++ [']'] := by
  unfold withoutBrackets
  split
  · rename_i ends
    right
    obtain ⟨first, last⟩ := ends
    obtain ⟨rest, rfl⟩ := List.head?_eq_some_iff.mp first
    rw [List.tail_cons, List.cons_append]
    cases rest with
    | nil => cases last
    | cons c rest =>
      rw [List.getLast?_cons_cons] at last
      rw [List.dropLast_append_getLast? _ last]
  · exact Or.inl rfl

/-- An address is made an endpoint exactly if its brackets are sound. -/
theorem exists_split_ensurePort_iff_sound {address : Text} :
    (∃ parts, split (ensurePort address) = .ok parts) ↔ HasSoundBrackets address := by
  rw [exists_split_ensurePort_iff, exists_split_join_iff standardPort_plain]
  constructor
  · rintro (⟨⟨host, port⟩, accepted⟩ | plain | ⟨inner, enclosed, plain, single⟩)
    · obtain ⟨plain, port, ⟨rfl, -⟩ | rfl⟩ := split_eq_ok_iff.mp accepted
      · refine .unbracketed ⟨?_, ?_⟩
        · simp [plain.1, port.2.1]
        · simp [plain.2, port.2.2]
      · exact .endpoint plain port
    · rcases eq_or_enclosed_withoutBrackets address with same | enclosed
      · exact .unbracketed (same ▸ plain)
      · exact enclosed ▸ .alone plain
    · rcases eq_or_enclosed_withoutBrackets address with same | twice
      · rw [same, enclosed]
        exact .alone plain
      · rw [twice, enclosed]
        exact .twice plain single
  · intro sound
    cases sound with
    | unbracketed plain =>
      rcases eq_or_enclosed_withoutBrackets address with same | enclosed
      · exact Or.inr (Or.inl (same ▸ plain))
      · have opened : '[' ∈ address := enclosed ▸ List.mem_cons_self
        exact absurd opened plain.1
    | alone plain =>
      rw [withoutBrackets_enclosed]
      exact Or.inr (Or.inl plain)
    | twice plain single =>
      rw [withoutBrackets_enclosed]
      exact Or.inr (Or.inr ⟨_, rfl, plain, single⟩)
    | endpoint plain port => exact Or.inl ⟨_, split_eq_ok_iff.mpr ⟨plain, port, Or.inr rfl⟩⟩

/-! ## The address of a text -/

/-- The address that a text gives before its last slash, between parentheses; empty if it gives
none. -/
def givenAddress (text : Text) : Text :=
  match readAuthority {} ((Text.cutLast '/' text).elim [] Prod.fst) with
  | .ok start => start.address
  | .error _ => []

example : givenAddress "a:(b)@tcp([::1)/db".toList = "[::1".toList := by decide

theorem address_of_readParameter {descriptor next : Descriptor} {text : Text}
    (read : descriptor.readParameter text = .ok next) : next.address = descriptor.address := by
  unfold readParameter at read
  split at read
  · cases read
    rfl
  unfold readAssignment at read
  split at read
  · rename_i option _
    calc next.address = (descriptor.adopt next option).address :=
          congrArg Descriptor.address (eq_adopt_of_readOption read)
      _ = descriptor.address := by cases option <;> rfl
  · obtain ⟨_, -, rfl⟩ := exists_of_map_eq_ok read
    rfl

/-- No parameter touches the address. -/
theorem address_of_readParameters {descriptor next : Descriptor} {text : Text}
    (read : descriptor.readParameters text = .ok next) : next.address = descriptor.address := by
  apply invariant_of_foldlM read
  · rfl
  · intro piece _ before after same step
    exact (address_of_readParameter step).trans same

/-- Only the completion changes the address that a text gives. -/
theorem exists_complete_of_parse {text : Text} {descriptor : Descriptor}
    (read : parse text = .ok descriptor) :
    ∃ reached : Descriptor, reached.address = givenAddress text ∧
      reached.complete = .ok descriptor := by
  rcases exists_stages_of_parse read with
    ⟨rfl, read⟩ | ⟨before, after, connected, configured, database, found, first, second, read⟩
  · exact ⟨{}, rfl, read⟩
  · have kept : configured.address = connected.address := address_of_readParameters second
    refine ⟨{ configured with database }, ?_, read⟩
    rw [givenAddress, found, Option.elim_some, first]
    exact kept

theorem address_of_complete {descriptor next : Descriptor} (read : descriptor.complete = .ok next)
    (standard : next.network = standardNetwork) :
    next.address = if descriptor.address = [] then join "127.0.0.1".toList standardPort
      else ensurePort descriptor.address := by
  obtain ⟨network, address, rfl, -, -, completed⟩ := exists_of_complete read
  obtain rfl : network = standardNetwork := standard
  rcases completed with ⟨empty, found⟩ | ⟨present, -, rfl⟩ | ⟨-, other, -⟩
  · rw [if_pos empty]
    exact (Option.some.inj found).symm
  · rw [if_neg present]
  · exact absurd rfl other

theorem exists_split_address_iff {text : Text} {descriptor : Descriptor}
    (read : parse text = .ok descriptor) (standard : descriptor.network = standardNetwork) :
    (∃ parts, split descriptor.address = .ok parts) ↔ HasSoundBrackets (givenAddress text) := by
  obtain ⟨reached, given, completed⟩ := exists_complete_of_parse read
  rw [address_of_complete completed standard, ← given]
  split
  · rename_i empty
    rw [empty]
    exact iff_of_true ⟨("127.0.0.1".toList, standardPort), by decide⟩ (.unbracketed (by decide))
  · exact exists_split_ensurePort_iff_sound

/-! ## The peer -/

/-- The attributes of a connection report the host and the port of its address. -/
def ReportsPeer (descriptor : Descriptor) : Prop :=
  ∃ host port attributes, split descriptor.address = .ok (host, port) ∧
    descriptor.attributes = .ok attributes ∧ attributes.peer = Peer.ofHost host ∧
      Numeral.toInt? port = .ok attributes.port

theorem transport?_standardNetwork : transport? standardNetwork = some .tcp := by decide

/-- The peer is reported as soon as the address is an endpoint, unless the port has too many
digits. -/
theorem reportsPeer_iff {descriptor : Descriptor} (standard : descriptor.network = standardNetwork) :
    descriptor.ReportsPeer ↔
      ∃ host port, split descriptor.address = .ok (host, port) ∧ ¬ Numeral.IsLong port := by
  have internet : transport? descriptor.network = some .tcp := by
    rw [standard, transport?_standardNetwork]
  constructor
  · rintro ⟨host, port, attributes, endpoint, -, -, number⟩
    refine ⟨host, port, endpoint, fun long => ?_⟩
    obtain ⟨_, refused⟩ := Numeral.exists_toInt?_error_iff.mpr long
    rw [number] at refused
    cases refused
  · rintro ⟨host, port, endpoint, short⟩
    cases number : Numeral.toInt? port with
    | error long => exact absurd (Numeral.exists_toInt?_error_iff.mp ⟨long, number⟩) short
    | ok n =>
      have reported : ∃ attributes, descriptor.attributes = .ok attributes ∧
          attributes.peer = Peer.ofHost host ∧ attributes.port = n := by
        simp only [Descriptor.attributes, internet, if_true, peer, endpoint, number]
        exact ⟨_, rfl, rfl, rfl⟩
      obtain ⟨attributes, report, peer, rfl⟩ := reported
      exact ⟨host, port, attributes, endpoint, report, peer, number⟩

/-- The address of a connection that was read on the standard network is an endpoint, stays as it is
when a port is added again and has its host and port reported, exactly if the brackets of the
address that the text gives are sound; a port with too many digits is reported in no case. -/
theorem address_is_endpoint_iff {text : Text} {descriptor : Descriptor}
    (read : parse text = .ok descriptor) (standard : descriptor.network = standardNetwork) :
    ((∃ host port, split descriptor.address = .ok (host, port)) ↔
        HasSoundBrackets (givenAddress text)) ∧
      (ensurePort descriptor.address = descriptor.address ↔
        HasSoundBrackets (givenAddress text)) ∧
      (descriptor.ReportsPeer ↔ HasSoundBrackets (givenAddress text) ∧ ¬ HasLongPort text) := by
  have sound := exists_split_address_iff read standard
  refine ⟨Prod.exists.symm.trans sound, (ensurePort_eq_iff _).trans sound, ?_⟩
  rw [reportsPeer_iff standard, ← sound]
  constructor
  · rintro ⟨host, port, endpoint, short⟩
    refine ⟨⟨_, endpoint⟩, ?_⟩
    rintro ⟨other, _, _, same, -, endpoint', long⟩
    cases read.symm.trans same
    cases endpoint.symm.trans endpoint'
    exact short long
  · rintro ⟨⟨⟨host, port⟩, endpoint⟩, short⟩
    refine ⟨host, port, endpoint, fun long => short ?_⟩
    exact ⟨descriptor, host, port, read, standard ▸ transport?_standardNetwork, endpoint, long⟩

/-- A text with slashes, parentheses and at signs before the address, which is in brackets. -/
def bracketedText : Text := "app:p@(ss)/w@tcp([fe80::1%25])/orders?timeout=1s".toList

/-- What that text describes. -/
def bracketed : Descriptor :=
  setTimeout
    { user := "app".toList
      password := "p@(ss)/w".toList
      network := "tcp".toList
      address := "[fe80::1%25]:3306".toList
      database := "orders".toList }
    .connect ⟨1000000⟩

theorem address_is_endpoint_iff_bracketed :
    parse bracketedText = .ok bracketed ∧ bracketed.network = standardNetwork ∧
      HasSoundBrackets (givenAddress bracketedText) ∧
      (∃ host port, split bracketed.address = .ok (host, port)) ∧
      ensurePort bracketed.address = bracketed.address ∧
      (bracketed.ReportsPeer ↔ ¬ HasLongPort bracketedText) := by
  have read : parse bracketedText = .ok bracketed := by decide +kernel
  have standard : bracketed.network = standardNetwork := rfl
  have given : givenAddress bracketedText = '[' :: "fe80::1%25".toList ++ [']'] := by decide +kernel
  have sound : HasSoundBrackets (givenAddress bracketedText) := given ▸ .alone (by decide)
  obtain ⟨endpoint, kept, reports⟩ := address_is_endpoint_iff read standard
  exact ⟨read, standard, sound, endpoint.mpr sound, kept.mpr sound,
    reports.trans (and_iff_right sound)⟩

/-- A connection to an address with a bracket too many. -/
def unclosed : Descriptor where
  network := "tcp".toList
  address := "[[::1]:3306".toList
  database := "db".toList

/-- An opening bracket that is not closed stays in the address, which gets the port and is no
endpoint; another port would be added to it, and its peer is not reported. -/
theorem parse_keeps_open_bracket :
    parse "tcp([::1)/db".toList = .ok unclosed ∧ unclosed.network = standardNetwork ∧
      (¬ ∃ host port, split unclosed.address = .ok (host, port)) ∧
      ensurePort unclosed.address ≠ unclosed.address ∧
      ∃ attributes, unclosed.attributes = .ok attributes ∧ attributes.peer = none ∧
        attributes.port = none := by
  have refused : split unclosed.address = .error ⟨.unexpectedOpenBracket, unclosed.address⟩ := by
    decide
  refine ⟨by decide +kernel, rfl, ?_, by decide, _, rfl, rfl, rfl⟩
  rintro ⟨host, port, accepted⟩
  cases refused.symm.trans accepted

end Descriptor

end DataSource.Mysql
