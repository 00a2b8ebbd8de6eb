import EntityStore.Proofs.Integer
import EntityStore.Proofs.Result
import EntityStore.Proofs.Split
import EntityStore.Settings.Address

/-!
# Lists of server addresses

A list is read as the addresses that its entries give, and is refused for the first entry that gives
none. Addresses are read back from what they are displayed as, whatever blanks and empty entries
stand between them.
-/

namespace EntityStore

/-! ## Ports -/

namespace Text

/-- Digits, behind a plus or not, whose value is the number. -/
def Spells (cs : List Char) (n : Nat) : Prop :=
  ∃ digits, (cs = digits ∨ cs = '+' :: digits) ∧ digits ≠ [] ∧
    (∀ c ∈ digits, c.isDigit = true) ∧ Nat.ofDigitChars 10 digits 0 = n

theorem readNat?_eq_some {cs : List Char} {n : Nat} : readNat? cs = some n ↔ Spells cs n := by
  unfold readNat?
  split
  · rename_i rest
    rw [readDigits?_eq_some]
    constructor
    · exact fun digits => ⟨rest, .inr rfl, digits⟩
    · rintro ⟨digits, rfl | same, spelled⟩
      · have plus := spelled.2.1 '+' List.mem_cons_self
        cases plus
      · cases same
        exact spelled
  · rename_i unsigned
    rw [readDigits?_eq_some]
    constructor
    · exact fun digits => ⟨cs, .inl rfl, digits⟩
    · rintro ⟨digits, rfl | rfl, spelled⟩
      · exact spelled
      · exact absurd rfl (unsigned digits)

theorem readUInt16?_eq_some {cs : List Char} {n : UInt16} :
    readUInt16? cs = some n ↔ Spells cs n.toNat := by
  unfold readUInt16?
  simp only [Option.bind_eq_some_iff, readNat?_eq_some, Option.ite_none_right_eq_some,
    Option.some.injEq]
  constructor
  · rintro ⟨m, spells, fits, rfl⟩
    rwa [UInt16.toNat_ofNat_of_lt' fits]
  · exact fun spells => ⟨n.toNat, spells, n.toNat_lt, UInt16.ofNat_toNat⟩

theorem spells_toDigits (n : Nat) : Spells (Nat.toDigits 10 n) n :=
  ⟨_, .inl rfl, Nat.toDigits_ne_nil, isDigit_of_toDigits n, Nat.ofDigitChars_ten_toDigits⟩

theorem not_isBlankChar_of_isDigit {c : Char} (digit : c.isDigit = true) :
    ¬ isBlankChar c = true := by
  obtain ⟨least, most⟩ := Char.isDigit_iff_toNat.mp digit
  unfold isBlankChar
  simp only [Bool.or_eq_true, Bool.and_eq_true, decide_eq_true_eq, beq_iff_eq]
  have zero : '0'.toNat = 48 := rfl
  have nine : '9'.toNat = 57 := rfl
  omega

end Text

namespace ServerAddress

/-! ## Entries -/

/-- The entry is a host, its last colon and a port. -/
def Gives (entry : List Char) (a : ServerAddress) : Prop :=
  a.host ≠ "" ∧ ∃ port, entry = a.host.toList ++ ':' :: port ∧ ':' ∉ port ∧
    Text.Spells port a.port.toNat

/-- What is at fault with an entry. A port is looked at before the host. -/
inductive Faulty (entry : List Char) : AddressFault → Prop where
  | noPort (colonless : ':' ∉ entry) : Faulty entry .noPort
  | invalidPort {host port : List Char} (split : entry = host ++ ':' :: port) (last : ':' ∉ port)
    (invalid : ∀ n < UInt16.size, ¬ Text.Spells port n) : Faulty entry .invalidPort
  | emptyHost {port : List Char} {n : Nat} (split : entry = ':' :: port) (last : ':' ∉ port)
    (fits : n < UInt16.size) (valid : Text.Spells port n) : Faulty entry .emptyHost

variable {entry : List Char} {a : ServerAddress}

theorem ofEntry_of_gives (gives : Gives entry a) : ofEntry entry = .ok a := by
  obtain ⟨host, port, rfl, last, spells⟩ := gives
  unfold ofEntry
  rw [Text.splitLast?_append last]
  simp only [Text.readUInt16?_eq_some.mpr spells]
  rw [if_neg (by simpa using host), String.ofList_toList]

theorem ofEntry_of_faulty {fault : AddressFault} (faulty : Faulty entry fault) :
    ofEntry entry = .error fault := by
  unfold ofEntry
  cases faulty with
  | noPort colonless => rw [Text.splitLast?_eq_none colonless]
  | @invalidPort host port split last invalid =>
    have unread : Text.readUInt16? port = none := by
      rw [Option.eq_none_iff_forall_ne_some]
      exact fun n read => invalid n.toNat n.toNat_lt (Text.readUInt16?_eq_some.mp read)
    rw [split, Text.splitLast?_append last]
    simp only [unread]
  | @emptyHost port n split last fits valid =>
    have read : Text.readUInt16? port = some (.ofNat n) := by
      rw [Text.readUInt16?_eq_some, UInt16.toNat_ofNat_of_lt' fits]
      exact valid
    rw [split, ← List.nil_append (':' :: port), Text.splitLast?_append last]
    simp only [read]
    rfl

theorem gives_or_faulty (entry : List Char) :
    (∃ a, Gives entry a) ∨ ∃ fault, Faulty entry fault := by
  by_cases colon : ':' ∈ entry
  · obtain ⟨host, port, rfl, last⟩ := Text.exists_last colon
    by_cases valid : ∃ n < UInt16.size, Text.Spells port n
    · obtain ⟨n, fits, spells⟩ := valid
      cases host with
      | nil => exact .inr ⟨.emptyHost, .emptyHost rfl last fits spells⟩
      | cons c rest =>
        refine .inl ⟨⟨String.ofList (c :: rest), .ofNat n⟩, by simp, port, by simp, last, ?_⟩
        rwa [UInt16.toNat_ofNat_of_lt' fits]
    · push Not at valid
      exact .inr ⟨.invalidPort, .invalidPort rfl last valid⟩
  · exact .inr ⟨.noPort, .noPort colon⟩

theorem ofEntry_eq_ok : ofEntry entry = .ok a ↔ Gives entry a := by
  refine ⟨fun ok => ?_, ofEntry_of_gives⟩
  rcases gives_or_faulty entry with ⟨b, gives⟩ | ⟨fault, faulty⟩
  · cases (ofEntry_of_gives gives).symm.trans ok
    exact gives
  · cases (ofEntry_of_faulty faulty).symm.trans ok

theorem ofEntry_eq_error {fault : AddressFault} :
    ofEntry entry = .error fault ↔ Faulty entry fault := by
  refine ⟨fun refused => ?_, ofEntry_of_faulty⟩
  rcases gives_or_faulty entry with ⟨b, gives⟩ | ⟨other, faulty⟩
  · cases (ofEntry_of_gives gives).symm.trans refused
  · cases (ofEntry_of_faulty faulty).symm.trans refused
    exact faulty

/-! ## Lists -/

/-- The parts are the entries with blanks around them, and between them parts that are blank. -/
inductive Padded : List (List Char) → List (List Char) → Prop where
  | nil : Padded [] []
  | blank {part : List Char} {parts entries : List (List Char)} (blank : Text.AllBlank part)
    (rest : Padded parts entries) : Padded (part :: parts) entries
  | entry {before entry after : List Char} {parts entries : List (List Char)}
    (left : Text.AllBlank before) (bare : Text.Bare entry) (right : Text.AllBlank after)
    (rest : Padded parts entries) :
    Padded ((before ++ entry ++ after) :: parts) (entry :: entries)

/-- The text is a list of the entries: parts with commas between them, in which the entries stand
among blanks. -/
def Lists (text : List Char) (entries : List (List Char)) : Prop :=
  ∃ parts, parts ≠ [] ∧ (∀ part ∈ parts, ',' ∉ part) ∧ text = [','].intercalate parts ∧
    Padded parts entries

theorem Padded.filter_trimChars {parts es : List (List Char)} (padded : Padded parts es) :
    (parts.map Text.trimChars).filter (!·.isEmpty) = es := by
  induction padded with
  | nil => rfl
  | blank blank _ ih =>
    rw [List.map_cons, blank.trimChars_eq_nil]
    exact ih
  | entry left bare right _ ih =>
    rw [List.map_cons, bare.trimChars_append left right,
      List.filter_cons_of_pos (by simpa using bare.some), ih]

theorem padded_filter_trimChars (parts : List (List Char)) :
    Padded parts ((parts.map Text.trimChars).filter (!·.isEmpty)) := by
  induction parts with
  | nil => exact .nil
  | cons part parts ih =>
    rw [List.map_cons]
    rcases Text.trimChars_cases part with ⟨blank, none⟩ | ⟨bare, before, after, left, right, same⟩
    · rw [none]
      exact .blank blank ih
    · rw [List.filter_cons_of_pos (by simpa using bare.some)]
      have padded := Padded.entry left bare right ih
      rwa [← same] at padded

theorem entries_eq_iff {text : List Char} {es : List (List Char)} :
    entries text = es ↔ Lists text es := by
  constructor
  · rintro rfl
    obtain ⟨some, commaless, joined⟩ := Text.splitAt_eq_iff.mp (rfl : Text.splitAt ',' text = _)
    exact ⟨_, some, commaless, joined, padded_filter_trimChars _⟩
  · rintro ⟨parts, some, commaless, joined, padded⟩
    unfold entries
    rw [Text.splitAt_eq_iff.mpr ⟨some, commaless, joined⟩, padded.filter_trimChars]

theorem Padded.bare {parts es : List (List Char)} (padded : Padded parts es) :
    ∀ entry ∈ es, Text.Bare entry ∧ ∃ part ∈ parts, entry ⊆ part := by
  induction padded with
  | nil => nofun
  | blank _ _ ih =>
    intro entry mem
    obtain ⟨bare, part, there, inside⟩ := ih entry mem
    exact ⟨bare, part, List.mem_cons_of_mem _ there, inside⟩
  | entry _ bare _ _ ih =>
    rw [List.forall_mem_cons]
    refine ⟨⟨bare, _, List.mem_cons_self, fun c mem => by simp [mem]⟩, fun entry mem => ?_⟩
    obtain ⟨bare, part, there, inside⟩ := ih entry mem
    exact ⟨bare, part, List.mem_cons_of_mem _ there, inside⟩

theorem Lists.bare {text : List Char} {es : List (List Char)} (lists : Lists text es) :
    ∀ entry ∈ es, Text.Bare entry ∧ ',' ∉ entry := by
  obtain ⟨parts, -, commaless, -, padded⟩ := lists
  intro entry mem
  obtain ⟨bare, part, there, inside⟩ := padded.bare entry mem
  exact ⟨bare, fun comma => commaless part there (inside comma)⟩

theorem lists_intercalate {es : List (List Char)} (some : es ≠ [])
    (bare : ∀ entry ∈ es, Text.Bare entry) (commaless : ∀ entry ∈ es, ',' ∉ entry) :
    Lists ([','].intercalate es) es := by
  have padded : Padded es es := by
    clear some commaless
    induction es with
    | nil => exact .nil
    | cons entry rest ih =>
      obtain ⟨here, later⟩ := List.forall_mem_cons.mp bare
      have first : Padded (([] ++ entry ++ []) :: rest) (entry :: rest) :=
        .entry nofun here nofun (ih later)
      rwa [List.nil_append, List.append_nil] at first
  exact ⟨es, some, commaless, rfl, padded⟩

/-! ## Addresses of a list -/

theorem parseList_eq (list : String) : parseList list =
    (entries list.toList).mapM (fun entry => (ofEntry entry).mapError fun fault =>
      StoreError.configuration (.address (String.ofList entry) fault)) >>= fun addresses =>
    if addresses.isEmpty then .error (.configuration .noAddress) else .ok addresses := rfl

theorem parseList_eq_ok {list : String} {as : List ServerAddress} :
    parseList list = .ok as ↔
      as ≠ [] ∧ ∃ es, Lists list.toList es ∧ List.Forall₂ Gives es as := by
  simp only [← entries_eq_iff, exists_eq_left', parseList_eq, bind_eq_ok, mapM_eq_ok,
    mapError_eq_ok, ofEntry_eq_ok]
  constructor
  · rintro ⟨found, gives, some⟩
    split_ifs at some with none
    cases some
    exact ⟨by simpa using none, gives⟩
  · rintro ⟨some, gives⟩
    exact ⟨as, gives, if_neg (by simpa using some)⟩

theorem parseList_eq_error {list : String} {e : StoreError} :
    parseList list = .error e ↔ ∃ es, Lists list.toList es ∧
      (es = [] ∧ e = .configuration .noAddress ∨
        ∃ before entry after fault, es = before ++ entry :: after ∧
          (∀ earlier ∈ before, ∃ a, Gives earlier a) ∧ Faulty entry fault ∧
          e = .configuration (.address (String.ofList entry) fault)) := by
  simp only [← entries_eq_iff, exists_eq_left', parseList_eq, bind_eq_error, mapM_eq_error,
    mapM_eq_ok, mapError_eq_ok, mapError_eq_error, ofEntry_eq_ok, ofEntry_eq_error]
  constructor
  · rintro (⟨before, entry, after, split, earlier, fault, faulty, rfl⟩ | ⟨as, gives, none⟩)
    · exact .inr ⟨before, entry, after, fault, split, earlier, faulty, rfl⟩
    · split_ifs at none with empty
      cases none
      rw [List.isEmpty_iff.mp empty, List.forall₂_nil_right_iff] at gives
      exact .inl ⟨gives, rfl⟩
  · rintro (⟨none, rfl⟩ | ⟨before, entry, after, fault, split, earlier, faulty, rfl⟩)
    · rw [none]
      exact .inr ⟨[], .nil, rfl⟩
    · exact .inl ⟨before, entry, after, split, earlier, fault, faulty, rfl⟩

/-! ## Displays -/

structure Listable (a : ServerAddress) : Prop where
  host : a.host.toList ≠ []
  start : ¬ Text.isBlankChar (a.host.toList.head host) = true
  commaless : ',' ∉ a.host.toList

theorem toList_display (a : ServerAddress) :
    a.display.toList = a.host.toList ++ ':' :: Nat.toDigits 10 a.port.toNat := by
  unfold display
  simp

theorem gives_display (host : a.host ≠ "") : Gives a.display.toList a := by
  refine ⟨host, _, toList_display a, fun colon => ?_, Text.spells_toDigits _⟩
  have digit := Text.isDigit_of_toDigits _ _ colon
  cases digit

theorem Listable.bare (listable : Listable a) : Text.Bare a.display.toList := by
  rw [toList_display]
  have port : Nat.toDigits 10 a.port.toNat ≠ [] := Nat.toDigits_ne_nil
  refine ⟨by simp, ?_, ?_⟩
  · rw [List.head_append_of_ne_nil listable.host]
    exact listable.start
  · rw [List.getLast_append_of_ne_nil _ (by simp), List.getLast_cons port]
    exact Text.not_isBlankChar_of_isDigit (Text.isDigit_of_toDigits _ _ (List.getLast_mem port))

theorem Listable.commaless_display (listable : Listable a) : ',' ∉ a.display.toList := by
  rw [toList_display, List.mem_append, List.mem_cons]
  rintro (host | colon | port)
  · exact listable.commaless host
  · cases colon
  · have digit := Text.isDigit_of_toDigits _ _ port
    cases digit

theorem Gives.listable (gives : Gives entry a) (bare : Text.Bare entry) (commaless : ',' ∉ entry) :
    Listable a := by
  obtain ⟨host, port, rfl, -⟩ := gives
  have some : a.host.toList ≠ [] := by simpa using host
  refine ⟨some, ?_, fun comma => commaless (List.mem_append_left _ comma)⟩
  have start := bare.start
  rwa [List.head_append_of_ne_nil some] at start

theorem parseList_of_lists {list : String} {as : List ServerAddress} (some : as ≠ [])
    (hosts : ∀ a ∈ as, a.host ≠ "")
    (lists : Lists list.toList (as.map fun a => a.display.toList)) : parseList list = .ok as := by
  refine parseList_eq_ok.mpr ⟨some, _, lists, ?_⟩
  rw [List.forall₂_map_left_iff, List.forall₂_same]
  exact fun a mem => gives_display (hosts a mem)

theorem listable_of_forall₂ {es : List (List Char)} {as : List ServerAddress}
    (gives : List.Forall₂ Gives es as) (bare : ∀ entry ∈ es, Text.Bare entry ∧ ',' ∉ entry) :
    ∀ a ∈ as, Listable a := by
  induction gives with
  | nil => nofun
  | cons here _ ih =>
    obtain ⟨first, later⟩ := List.forall_mem_cons.mp bare
    exact List.forall_mem_cons.mpr ⟨here.listable first.1 first.2, ih later⟩

theorem lists_displays {as : List ServerAddress} (some : as ≠ [])
    (listable : ∀ a ∈ as, Listable a) :
    Lists (",".intercalate (as.map display)).toList (as.map fun a => a.display.toList) := by
  rw [String.toList_intercalate, List.map_map]
  refine lists_intercalate (by simpa using some) ?_ ?_
  · exact List.forall_mem_map.mpr fun a mem => (listable a mem).bare
  · exact List.forall_mem_map.mpr fun a mem => (listable a mem).commaless_display

/-- Lists of addresses are read back. A list that is read at all is read again from its displays with
commas between them; addresses are read from any list of their displays, with blanks around them and
empty entries anywhere; and a list is refused where it has no entries, or for the first entry that is
no address. -/
theorem parseList_round_trip :
    (∀ list as, parseList list = .ok as →
      parseList (",".intercalate (as.map display)) = .ok as) ∧
    (∀ list as, as ≠ [] → (∀ a ∈ as, Listable a) →
      Lists list.toList (as.map fun a => a.display.toList) → parseList list = .ok as) ∧
    ∀ list e, parseList list = .error e ↔ ∃ es, Lists list.toList es ∧
      (es = [] ∧ e = .configuration .noAddress ∨
        ∃ before entry after fault, es = before ++ entry :: after ∧
          (∀ earlier ∈ before, ∃ a, Gives earlier a) ∧ Faulty entry fault ∧
          e = .configuration (.address (String.ofList entry) fault)) := by
  have read : ∀ list as, as ≠ [] → (∀ a ∈ as, Listable a) →
      Lists list.toList (as.map fun a => a.display.toList) → parseList list = .ok as := by
    intro list as some listable lists
    exact parseList_of_lists some (fun a mem => by simpa using (listable a mem).host) lists
  refine ⟨fun list as ok => ?_, read, fun list e => parseList_eq_error⟩
  obtain ⟨some, es, lists, gives⟩ := parseList_eq_ok.mp ok
  have listable := listable_of_forall₂ gives lists.bare
  exact read _ as some listable (lists_displays some listable)

def gateways : List ServerAddress := [⟨"::1", 9200⟩, ⟨"gate ", 80⟩]

theorem gateways_read :
    (∀ a ∈ gateways, Listable a) ∧
    Lists " ::1:9200,,\tgate :80 , ".toList (gateways.map fun a => a.display.toList) ∧
    parseList " ::1:9200,,\tgate :80 , " = .ok gateways ∧
    parseList "::1:9200,gate :80" = .ok gateways := by
  have listable : ∀ a ∈ gateways, Listable a := by
    refine List.forall_mem_cons.mpr ⟨?_, List.forall_mem_singleton.mpr ?_⟩
    · exact ⟨by decide, by decide, by decide⟩
    · exact ⟨by decide, by decide, by decide⟩
  have lists : Lists " ::1:9200,,\tgate :80 , ".toList
      (gateways.map fun a => a.display.toList) := entries_eq_iff.mp (by decide +kernel)
  obtain ⟨again, read, -⟩ := parseList_round_trip
  have first := read _ gateways (by decide) listable lists
  exact ⟨listable, lists, first, again _ gateways first⟩

end ServerAddress

end EntityStore
