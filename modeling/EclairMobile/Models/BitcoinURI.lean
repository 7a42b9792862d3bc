import EclairMobile.Activities.PaymentScreen
import EclairMobile.Lib.Casing
import EclairMobile.Lib.Except

/-!
# Bitcoin URIs

What the constructor of `BitcoinURI` makes of a text: it strips the scheme, has the rest split and
decoded by `Uri`, and checks the address, two of the parameters and the names of all of them.
-/

namespace EclairMobile

open Lib

/-- A parameter of a query.  `getQueryParameter` compares the name as it is written. -/
structure Parameter where
  encodedName : String
  name : String
  value : String
  deriving DecidableEq, Repr

/-- What `android.net.Uri` splits a text into, decoded. -/
structure Uri where
  scheme : Option String
  path : Option String
  parameters : List Parameter
  deriving DecidableEq, Repr

namespace Uri

def getQueryParameter (uri : Uri) (key : String) : Option String :=
  (uri.parameters.find? (·.encodedName = key)).map (·.value)

def getQueryParameterNames (uri : Uri) : List String := uri.parameters.map (·.name)

end Uri

/-- The chains that the wallet can be built for. -/
inductive Block
  | LivenetGenesisBlock
  | TestnetGenesisBlock
  deriving DecidableEq, Repr

def WalletUtils.chainHash (CHAIN : String) : Block :=
  if "mainnet" = CHAIN then .LivenetGenesisBlock else .TestnetGenesisBlock

def Constants.BTC_CODE : String := "btc"

namespace BitcoinURI

/-- What is thrown, with its message.  The `IllegalArgumentException`s comprise the
`NumberFormatException`s. -/
inductive Thrown
  | bitcoinURIParseException (message : Option String)
  | illegalArgumentException (message : Option String)
  | other (message : Option String)
  deriving DecidableEq, Repr

/-- The default language of the phone, `Uri.parse`, `BuildConfig.CHAIN`, and what eclair reads.  The
script of an address is not used. -/
structure Libraries where
  locale : Casing
  parse : String → Uri
  CHAIN : String
  addressToPublicKeyScript : String → Block → Except Thrown Unit
  readPaymentRequest : String → Except Thrown PaymentRequest
  convertStringAmountToSat : String → String → Except Thrown ℤ

/-- What the code relies on. -/
structure Libraries.Lawful (lib : Libraries) : Prop where
  /-- The scheme is what stands before the first colon. -/
  scheme_of_colon : ∀ text : String, ':' ∈ text.toList → (lib.parse text).scheme ≠ none
  address_empty : ∀ chainHash, lib.addressToPublicKeyScript "" chainHash ≠ .ok ()
  amount_nonneg : ∀ text unit sat, lib.convertStringAmountToSat text unit = .ok sat → 0 ≤ sat

/-- All fields of a `BitcoinURI`. -/
structure Parsed extends BitcoinURI where
  message : Option String
  label : Option String
  amount : Option ℤ
  deriving DecidableEq, Repr

/-! ### The constructor -/

def BITCOIN_PREFIXES : List String := ["bitcoin://", "bitcoin:"]

def startsWith (s p : String) : Bool := p.toList.isPrefixOf s.toList

def substring (s : String) (beginIndex : ℕ) : String := String.ofList (s.toList.drop beginIndex)

/-- `toLowerCase` without a locale uses the default one.  A text whose lower case begins with a
prefix is not shorter than that. -/
def stripScheme (locale : Casing) (uri : String) : String :=
  match BITCOIN_PREFIXES.find? (startsWith (locale.toLowerCase uri)) with
  | some p => substring uri p.length
  | none => uri

variable (lib : Libraries)

def checkScheme (uri : Uri) : Except Thrown Unit :=
  match uri.scheme with
  | some _ => .error (.bitcoinURIParseException (some "scheme is not valid"))
  | none => .ok ()

def readAddress (uri : Uri) : Except Thrown String :=
  match uri.path with
  | none => .error (.bitcoinURIParseException (some "address is missing"))
  | some path =>
    if path = "" then .error (.bitcoinURIParseException (some "address is missing"))
    else
      match lib.addressToPublicKeyScript path (WalletUtils.chainHash lib.CHAIN) with
      | .error (.illegalArgumentException message) => .error (.bitcoinURIParseException message)
      | .error e => .error e
      | .ok _ => .ok path

/-- A parameter that may be absent or empty. -/
def readOptional {α : Type} (uri : Uri) (key : String) (read : String → Except Thrown α) :
    Except Thrown (Option α) :=
  match uri.getQueryParameter key with
  | none => .ok none
  | some param => if param = "" then .ok none else some <$> read param

def readLightning (uri : Uri) : Except Thrown (Option PaymentRequest) :=
  readOptional uri "lightning" lib.readPaymentRequest

def readAmount (uri : Uri) : Except Thrown (Option ℤ) :=
  readOptional uri "amount" fun param => lib.convertStringAmountToSat param Constants.BTC_CODE

def checkRequired (uri : Uri) : Except Thrown Unit :=
  match uri.getQueryParameterNames.find? (startsWith · "req-") with
  | some p => .error (.bitcoinURIParseException (some ("unhandled required param: " ++ p)))
  | none => .ok ()

/-- What is made of the text behind the scheme. -/
def ofUri (uri : Uri) : Except Thrown Parsed := do
  checkScheme uri
  let address ← readAddress lib uri
  let label := uri.getQueryParameter "label"
  let message := uri.getQueryParameter "message"
  let lightning ← readLightning lib uri
  let amount ← readAmount lib uri
  checkRequired uri
  pure { address, lightning, message, label, amount }

/-- The constructor. -/
def new : Option String → Except Thrown Parsed
  | none => .error (.bitcoinURIParseException (some "input is null"))
  | some input => ofUri lib (lib.parse (stripScheme lib.locale input))

/-! ### What is accepted -/

/-- One leading `bitcoin://` or `bitcoin:` is removed, in any letter case. -/
def withoutScheme (input : String) : String :=
  if StartsAnyCase "bitcoin://".toList input.toList then substring input 10
  else if StartsAnyCase "bitcoin:".toList input.toList then substring input 8
  else input

/-- The first parameter of that name is absent, empty or can be read. -/
def Readable {α : Type} (uri : Uri) (key : String) (read : String → Except Thrown α) : Prop :=
  ∀ param, uri.getQueryParameter key = some param → param = "" ∨ ∃ a, read param = .ok a

/-- The value of a parameter, if it is there and not empty. -/
def value? {α : Type} (uri : Uri) (key : String) (read : String → Except Thrown α) : Option α :=
  (uri.getQueryParameter key).bind fun param => if param = "" then none else (read param).toOption

/-- The text behind the scheme is that of a payment to an address of the chain. -/
structure Acceptable (uri : Uri) : Prop where
  scheme : uri.scheme = none
  address : ∃ path, uri.path = some path ∧
    lib.addressToPublicKeyScript path (WalletUtils.chainHash lib.CHAIN) = .ok ()
  lightning : Readable uri "lightning" lib.readPaymentRequest
  amount : ∀ param, uri.getQueryParameter "amount" = some param → param = "" ∨
    ∃ sat, lib.convertStringAmountToSat param Constants.BTC_CODE = .ok sat ∧ 0 ≤ sat
  required : ∀ name ∈ uri.getQueryParameterNames, ¬ "req-".toList <+: name.toList

/-- What the text says. -/
def parsed (uri : Uri) : Parsed where
  address := uri.path.getD ""
  lightning := value? uri "lightning" lib.readPaymentRequest
  message := uri.getQueryParameter "message"
  label := uri.getQueryParameter "label"
  amount := value? uri "amount" fun param => lib.convertStringAmountToSat param Constants.BTC_CODE

section

variable {lib} {uri : Uri}

theorem checkScheme_eq_ok_iff : checkScheme uri = .ok () ↔ uri.scheme = none := by
  unfold checkScheme
  cases uri.scheme with
  | none => simp
  | some scheme => simp

theorem readAddress_eq_ok_iff (h : lib.Lawful) {address : String} :
    readAddress lib uri = .ok address ↔ uri.path = some address ∧
      lib.addressToPublicKeyScript address (WalletUtils.chainHash lib.CHAIN) = .ok () := by
  unfold readAddress
  cases uri.path with
  | none => simp
  | some path =>
    by_cases hempty : path = ""
    · subst hempty
      refine iff_of_false (by simp) ?_
      rintro ⟨heq, hvalid⟩
      obtain rfl := Option.some.inj heq
      exact h.address_empty _ hvalid
    · simp only [hempty, if_false, Option.some_inj]
      split
      · next message hscript =>
        refine iff_of_false (by simp) ?_
        rintro ⟨rfl, hvalid⟩
        rw [hscript] at hvalid
        cases hvalid
      · next e _ hscript =>
        refine iff_of_false (by simp) ?_
        rintro ⟨rfl, hvalid⟩
        rw [hscript] at hvalid
        cases hvalid
      · next hscript =>
        constructor
        · intro heq
          obtain rfl := Except.ok.inj heq
          exact ⟨rfl, hscript⟩
        · rintro ⟨rfl, -⟩
          rfl

theorem readOptional_eq_ok_iff {α : Type} {key : String} {read : String → Except Thrown α}
    {a : Option α} :
    readOptional uri key read = .ok a ↔ Readable uri key read ∧ a = value? uri key read := by
  unfold readOptional Readable value?
  cases uri.getQueryParameter key with
  | none => simp [eq_comm]
  | some param =>
    by_cases hempty : param = ""
    · simp [hempty, eq_comm]
    · cases hread : read param with
      | error e => simp [hempty, hread, Functor.map, Except.map]
      | ok b => simp [hempty, hread, Functor.map, Except.map, Except.toOption, eq_comm]

theorem checkRequired_eq_ok_iff : checkRequired uri = .ok () ↔
    ∀ name ∈ uri.getQueryParameterNames, ¬ "req-".toList <+: name.toList := by
  unfold checkRequired
  cases hfind : uri.getQueryParameterNames.find? (startsWith · "req-") with
  | none =>
    rw [List.find?_eq_none] at hfind
    simpa [startsWith] using hfind
  | some p =>
    have hp := List.find?_some hfind
    have hmem := List.mem_of_find?_eq_some hfind
    refine iff_of_false (by simp) fun hnone => hnone p hmem ?_
    simpa [startsWith] using hp

theorem readable_amount_iff (h : lib.Lawful) :
    Readable uri "amount" (fun param => lib.convertStringAmountToSat param Constants.BTC_CODE) ↔
      ∀ param, uri.getQueryParameter "amount" = some param → param = "" ∨
        ∃ sat, lib.convertStringAmountToSat param Constants.BTC_CODE = .ok sat ∧ 0 ≤ sat := by
  refine forall_congr' fun param => imp_congr_right fun _ => or_congr_right ?_
  exact exists_congr fun sat => (and_iff_left_of_imp (h.amount_nonneg _ _ sat)).symm

/-- The constructor succeeds on what is acceptable, with what the text says. -/
theorem ofUri_eq_ok_iff (h : lib.Lawful) {r : Parsed} :
    ofUri lib uri = .ok r ↔ Acceptable lib uri ∧ r = parsed lib uri := by
  unfold ofUri
  constructor
  · intro hr
    obtain ⟨⟨⟩, hscheme, hr⟩ := bind_eq_ok_iff.mp hr
    obtain ⟨address, haddress, hr⟩ := bind_eq_ok_iff.mp hr
    obtain ⟨lightning, hlightning, hr⟩ := bind_eq_ok_iff.mp hr
    obtain ⟨amount, hamount, hr⟩ := bind_eq_ok_iff.mp hr
    obtain ⟨⟨⟩, hrequired, hr⟩ := bind_eq_ok_iff.mp hr
    obtain rfl := Except.ok.inj hr
    obtain ⟨hpath, hvalid⟩ := (readAddress_eq_ok_iff h).mp haddress
    obtain ⟨hinvoice, rfl⟩ := readOptional_eq_ok_iff.mp hlightning
    obtain ⟨hsat, rfl⟩ := readOptional_eq_ok_iff.mp hamount
    refine ⟨⟨checkScheme_eq_ok_iff.mp hscheme, ⟨address, hpath, hvalid⟩, hinvoice,
      (readable_amount_iff h).mp hsat, checkRequired_eq_ok_iff.mp hrequired⟩, ?_⟩
    simp [parsed, hpath]
  · rintro ⟨hacc, rfl⟩
    obtain ⟨address, hpath, hvalid⟩ := hacc.address
    have haddress : readAddress lib uri = .ok address :=
      (readAddress_eq_ok_iff h).mpr ⟨hpath, hvalid⟩
    have hlightning : readLightning lib uri = .ok _ :=
      readOptional_eq_ok_iff.mpr ⟨hacc.lightning, rfl⟩
    have hamount : readAmount lib uri = .ok _ :=
      readOptional_eq_ok_iff.mpr ⟨(readable_amount_iff h).mpr hacc.amount, rfl⟩
    refine bind_eq_ok_iff.mpr ⟨(), checkScheme_eq_ok_iff.mpr hacc.scheme, ?_⟩
    refine bind_eq_ok_iff.mpr ⟨address, haddress, ?_⟩
    refine bind_eq_ok_iff.mpr ⟨_, hlightning, ?_⟩
    refine bind_eq_ok_iff.mpr ⟨_, hamount, ?_⟩
    refine bind_eq_ok_iff.mpr ⟨(), checkRequired_eq_ok_iff.mpr hacc.required, ?_⟩
    simp [parsed, hpath, pure, Except.pure]

/-! ### The scheme -/

/-- The lower case of the text begins with the same schemes as the text in any letter case. -/
def Recognised (locale : Casing) (input : String) : Prop :=
  ∀ p ∈ BITCOIN_PREFIXES, startsWith (locale.toLowerCase input) p ↔
    StartsAnyCase p.toList input.toList

theorem startsWith_toLowerCase_iff {locale : Casing} {input p : String} :
    startsWith (locale.toLowerCase input) p ↔ p.toList <+: locale.lowerFrom [] input.toList := by
  simp [startsWith, Casing.toLowerCase]

theorem stripScheme_eq (locale : Casing) (input : String) : stripScheme locale input =
    if startsWith (locale.toLowerCase input) "bitcoin://" then substring input 10
    else if startsWith (locale.toLowerCase input) "bitcoin:" then substring input 8
    else input := by
  unfold stripScheme BITCOIN_PREFIXES
  by_cases hslashes : startsWith (locale.toLowerCase input) "bitcoin://"
  · rw [List.find?_cons_of_pos hslashes, if_pos hslashes]
    rfl
  · rw [List.find?_cons_of_neg hslashes, if_neg hslashes]
    by_cases hcolon : startsWith (locale.toLowerCase input) "bitcoin:"
    · rw [List.find?_cons_of_pos hcolon, if_pos hcolon]
      rfl
    · rw [List.find?_cons_of_neg hcolon, if_neg hcolon]
      rfl

theorem stripScheme_of_recognised {locale : Casing} {input : String}
    (h : Recognised locale input) : stripScheme locale input = withoutScheme input := by
  rw [stripScheme_eq, withoutScheme]
  simp only [h "bitcoin://" (by simp [BITCOIN_PREFIXES]), h "bitcoin:" (by simp [BITCOIN_PREFIXES])]

theorem searchable_of_mem {p : String} (h : p ∈ BITCOIN_PREFIXES) : Searchable p.toList := by
  simp only [BITCOIN_PREFIXES, List.mem_cons, List.not_mem_nil, or_false] at h
  rcases h with rfl | rfl
  · exact .of_all (by decide) (by decide)
  · exact .of_all (by decide) (by decide)

/-- Where the default language is neither Turkish nor Azeri, every text is recognised. -/
theorem recognised_of_not_turkic {locale : Casing} (h : locale.turkic = false) (input : String) :
    Recognised locale input := by
  intro p hp
  rw [startsWith_toLowerCase_iff]
  exact Casing.isPrefix_lowerFrom_iff h (searchable_of_mem hp) _ _

/-- The two slashes play no role in whether a text is recognised. -/
theorem recognised_iff {locale : Casing} {input : String} : Recognised locale input ↔
    (startsWith (locale.toLowerCase input) "bitcoin:" ↔
      StartsAnyCase "bitcoin:".toList input.toList) := by
  have hcolon : "bitcoin:" ∈ BITCOIN_PREFIXES := by simp [BITCOIN_PREFIXES]
  have happend : "bitcoin://".toList = "bitcoin:".toList ++ "//".toList := rfl
  refine ⟨fun h => h _ hcolon, fun h p hp => ?_⟩
  simp only [BITCOIN_PREFIXES, List.mem_cons, List.not_mem_nil, or_false] at hp
  rcases hp with rfl | rfl
  · rw [startsWith_toLowerCase_iff] at h ⊢
    rw [happend]
    by_cases hs : StartsAnyCase "bitcoin:".toList input.toList
    · exact Casing.isPrefix_lowerFrom_append_iff (searchable_of_mem hcolon) (by decide)
        (.of_all (by decide) (by decide)) (by decide) (h.mpr hs) hs
    · refine iff_of_false ?_ fun hany => hs hany.of_append
      exact fun hlower => hs (h.mp ((List.prefix_append _ _).trans hlower))
  · exact h

/-- Elsewhere, a text that begins with the scheme is recognised unless there is a capital `I` in
it. -/
theorem recognised_iff_of_startsAnyCase {locale : Casing} {input : String}
    (h : StartsAnyCase "bitcoin:".toList input.toList) :
    Recognised locale input ↔ locale.turkic = false ∨ 'I' ∉ input.toList.take 8 := by
  have hcolon : "bitcoin:" ∈ BITCOIN_PREFIXES := by simp [BITCOIN_PREFIXES]
  rw [recognised_iff, startsWith_toLowerCase_iff,
    Casing.isPrefix_lowerFrom_iff_of_startsAnyCase (searchable_of_mem hcolon) h]
  exact iff_true_right h

/-- If the scheme is found in one of the two ways only, then a colon is left in the other one. -/
theorem colon_mem_of_not_recognised {locale : Casing} {input : String}
    (h : ¬ Recognised locale input) :
    ':' ∈ (stripScheme locale input).toList ∨ ':' ∈ (withoutScheme input).toList := by
  rw [recognised_iff] at h
  have happend : "bitcoin://".toList = "bitcoin:".toList ++ "//".toList := rfl
  by_cases hany : StartsAnyCase "bitcoin:".toList input.toList
  · left
    have hcolon : ¬ startsWith (locale.toLowerCase input) "bitcoin:" :=
      fun hlower => h (iff_of_true hlower hany)
    have hslashes : ¬ startsWith (locale.toLowerCase input) "bitcoin://" := by
      rw [startsWith_toLowerCase_iff] at hcolon ⊢
      rw [happend]
      exact fun hlower => hcolon ((List.prefix_append _ _).trans hlower)
    rw [stripScheme_eq, if_neg hslashes, if_neg hcolon]
    exact hany.mem (by decide) (by decide)
  · right
    have hlower : startsWith (locale.toLowerCase input) "bitcoin:" := by
      by_contra hcolon
      exact h (iff_of_false hcolon hany)
    have hslashes : ¬ StartsAnyCase "bitcoin://".toList input.toList := by
      rw [happend]
      exact fun hslashes => hany hslashes.of_append
    rw [withoutScheme, if_neg hslashes, if_neg hany]
    rw [startsWith_toLowerCase_iff] at hlower
    obtain ⟨c, hc, heq⟩ := Casing.mem_of_mem_lowerFrom (by decide) (by decide) (by decide)
      (hlower.subset (by decide : ':' ∈ "bitcoin:".toList))
    obtain rfl := (toLower_eq_iff (by decide)).mp heq
    exact hc

end

/-! ### The order of the parameters -/

/-- Parameters of distinct names have changed places. -/
inductive Reordered : List Parameter → List Parameter → Prop
  | refl (l : List Parameter) : Reordered l l
  | swap {p q : Parameter} (l : List Parameter) : p.encodedName ≠ q.encodedName →
      Reordered (p :: q :: l) (q :: p :: l)
  | cons (p : Parameter) {l l' : List Parameter} : Reordered l l' → Reordered (p :: l) (p :: l')
  | trans {l l' l'' : List Parameter} : Reordered l l' → Reordered l' l'' → Reordered l l''

theorem Reordered.symm {l l' : List Parameter} (h : Reordered l l') : Reordered l' l := by
  induction h with
  | refl l => exact .refl l
  | swap l hne => exact .swap l hne.symm
  | cons p _ ih => exact .cons p ih
  | trans _ _ ih₁ ih₂ => exact .trans ih₂ ih₁

theorem Reordered.perm {l l' : List Parameter} (h : Reordered l l') : l.Perm l' := by
  induction h with
  | refl l => exact .refl l
  | swap l _ => exact .swap _ _ l
  | cons p _ ih => exact .cons p ih
  | trans _ _ ih₁ ih₂ => exact ih₁.trans ih₂

theorem Reordered.find?_eq {l l' : List Parameter} (h : Reordered l l') (key : String) :
    l.find? (·.encodedName = key) = l'.find? (·.encodedName = key) := by
  induction h with
  | refl l => rfl
  | @swap p q l hne =>
    by_cases hp : p.encodedName = key
    · have hq : q.encodedName ≠ key := fun hq => hne (hp.trans hq.symm)
      simp [hp, hq]
    · simp [List.find?_cons, hp]
  | cons p _ ih => simp only [List.find?_cons, ih]
  | trans _ _ ih₁ ih₂ => exact ih₁.trans ih₂

/-- The same text but for the order of the parameters. -/
structure SameButOrder (u v : Uri) : Prop where
  scheme : u.scheme = v.scheme
  path : u.path = v.path
  parameters : Reordered u.parameters v.parameters

theorem SameButOrder.symm {u v : Uri} (h : SameButOrder u v) : SameButOrder v u :=
  ⟨h.scheme.symm, h.path.symm, h.parameters.symm⟩

section

variable {lib} {u v : Uri}

theorem SameButOrder.getQueryParameter_eq (h : SameButOrder u v) :
    u.getQueryParameter = v.getQueryParameter := by
  funext key
  rw [Uri.getQueryParameter, Uri.getQueryParameter, h.parameters.find?_eq]

theorem SameButOrder.mem_names_iff (h : SameButOrder u v) (name : String) :
    name ∈ u.getQueryParameterNames ↔ name ∈ v.getQueryParameterNames :=
  (h.parameters.perm.map (·.name)).mem_iff

theorem SameButOrder.parsed_eq (h : SameButOrder u v) : parsed lib u = parsed lib v := by
  simp only [parsed, value?, h.path, h.getQueryParameter_eq]

theorem SameButOrder.acceptable (h : SameButOrder u v) (hu : Acceptable lib u) :
    Acceptable lib v := by
  refine ⟨?_, ?_, ?_, ?_, ?_⟩
  · rw [← h.scheme]
    exact hu.scheme
  · rw [← h.path]
    exact hu.address
  · rw [Readable, ← h.getQueryParameter_eq]
    exact hu.lightning
  · rw [← h.getQueryParameter_eq]
    exact hu.amount
  · intro name hname
    exact hu.required name ((h.mem_names_iff name).mpr hname)

theorem SameButOrder.acceptable_iff (h : SameButOrder u v) :
    Acceptable lib u ↔ Acceptable lib v := ⟨h.acceptable, h.symm.acceptable⟩

theorem SameButOrder.toOption_ofUri_eq (hlib : lib.Lawful) (h : SameButOrder u v) :
    (ofUri lib u).toOption = (ofUri lib v).toOption := by
  refine Option.ext fun r => ?_
  rw [toOption_eq_some_iff, toOption_eq_some_iff, ofUri_eq_ok_iff hlib, ofUri_eq_ok_iff hlib,
    h.acceptable_iff, h.parsed_eq]

end

/-! ### What the constructor accepts -/

/-- It succeeds exactly on the acceptable texts, with what they say. -/
def AcceptsExactly (input : String) : Prop :=
  ∀ r, new lib (some input) = .ok r ↔ Acceptable lib (lib.parse (withoutScheme input)) ∧
    r = parsed lib (lib.parse (withoutScheme input))

theorem not_acceptable_of_colon {lib : Libraries} (h : lib.Lawful) {text : String}
    (hcolon : ':' ∈ text.toList) : ¬ Acceptable lib (lib.parse text) :=
  fun hacc => h.scheme_of_colon text hcolon hacc.scheme

/-- The constructor accepts what it should if it recognises the scheme, or if the text is refused
with the scheme and without it; and it is not concerned with the order of the parameters. -/
theorem acceptsExactly_iff {lib : Libraries} (h : lib.Lawful) (input : String) :
    (AcceptsExactly lib input ↔ Recognised lib.locale input ∨
      ¬ Acceptable lib (lib.parse (stripScheme lib.locale input)) ∧
        ¬ Acceptable lib (lib.parse (withoutScheme input))) ∧
    ∀ input', SameButOrder (lib.parse (stripScheme lib.locale input))
        (lib.parse (stripScheme lib.locale input')) →
      (new lib (some input)).toOption = (new lib (some input')).toOption := by
  refine ⟨⟨fun hexact => ?_, ?_⟩, fun input' hsame => hsame.toOption_ofUri_eq h⟩
  · by_cases hrec : Recognised lib.locale input
    · exact Or.inl hrec
    · right
      have hiff : Acceptable lib (lib.parse (stripScheme lib.locale input)) ↔
          Acceptable lib (lib.parse (withoutScheme input)) := by
        constructor
        · intro hacc
          exact ((hexact _).mp ((ofUri_eq_ok_iff h).mpr ⟨hacc, rfl⟩)).1
        · intro hacc
          exact ((ofUri_eq_ok_iff h).mp ((hexact _).mpr ⟨hacc, rfl⟩)).1
      rcases colon_mem_of_not_recognised hrec with hcolon | hcolon
      · have hnot := not_acceptable_of_colon h hcolon
        exact ⟨hnot, fun hacc => hnot (hiff.mpr hacc)⟩
      · have hnot := not_acceptable_of_colon h hcolon
        exact ⟨fun hacc => hnot (hiff.mp hacc), hnot⟩
  · rintro (hrec | ⟨hstrip, hwithout⟩) r
    · rw [← stripScheme_of_recognised hrec]
      exact ofUri_eq_ok_iff h
    · refine iff_of_false ?_ fun hr => hwithout hr.1
      exact fun hr => hstrip ((ofUri_eq_ok_iff h).mp hr).1

/-! ### Two phones -/

/-- A language, as far as the texts below go. -/
def locale (turkic : Bool) : Casing where
  lower _ c _ := [if c = 'I' ∧ turkic then 'ı' else c.toLower]
  turkic
  lower_ascii := by
    intro _ c _ _ hI _
    simp [hI]
  lower_capitalI := by
    intro _ _ _ _
    cases turkic <;> simp
  ascii_of_mem := by
    intro _ c _ x hx hascii
    obtain rfl := List.mem_singleton.mp hx
    split at hascii
    · exact absurd hascii (by decide)
    · next h => exact Or.inl (if_neg h)
  lower_ne_nil := by
    intro _ _ _ _ _ _
    exact List.cons_ne_nil _ _
  lower_of_isAscii := by
    rintro rfl _ c _ _
    exact ⟨[], by simp, by simp⟩
  lower_of_not_isAscii := by
    rintro rfl _ c _ hc
    exact ⟨c.toLower, by simp, Or.inr (mt (isAscii_toLower_iff c).mp hc)⟩

/-- `Uri`, for texts without escapes, authority or fragment. -/
def split (text : String) : Uri where
  scheme :=
    if ':' ∈ text.toList then some (String.ofList (text.toList.takeWhile (· ≠ ':'))) else none
  path := some (String.ofList (text.toList.takeWhile (· ≠ '?')))
  parameters :=
    match text.toList.dropWhile (· ≠ '?') with
    | [] => []
    | _ :: query => (query.splitOn '&').map fun parameter =>
      let name := String.ofList (parameter.takeWhile (· ≠ '='))
      { encodedName := name, name
        value := String.ofList ((parameter.dropWhile (· ≠ '=')).drop 1) }

/-- A phone for which there is one address and one amount. -/
def phone (turkic : Bool) : Libraries where
  locale := locale turkic
  parse := split
  CHAIN := "testnet"
  addressToPublicKeyScript address _ :=
    if address = "2MxGZTPhfGqcU4s8jn7FAM3AZCmAjaQTo1n" then .ok ()
    else .error (.illegalArgumentException (some "bad address"))
  readPaymentRequest _ := .error (.illegalArgumentException (some "bad invoice"))
  convertStringAmountToSat text unit :=
    if text = "21.98765432" ∧ unit = "btc" then .ok 2198765432
    else .error (.illegalArgumentException (some "bad amount"))

theorem lawful_phone (turkic : Bool) : (phone turkic).Lawful where
  scheme_of_colon := by
    intro text hcolon
    simp [phone, split, hcolon]
  address_empty := by
    intro _
    simp [phone]
  amount_nonneg := by
    intro text unit sat h
    simp only [phone] at h
    split at h
    · obtain rfl := Except.ok.inj h
      decide
    · cases h

def amountFirst : String :=
  "BITCOIN:2MxGZTPhfGqcU4s8jn7FAM3AZCmAjaQTo1n?amount=21.98765432&label=Bob"

def labelFirst : String :=
  "Bitcoin://2MxGZTPhfGqcU4s8jn7FAM3AZCmAjaQTo1n?label=Bob&amount=21.98765432"

theorem split_amountFirst : split (withoutScheme amountFirst) =
    ⟨none, some "2MxGZTPhfGqcU4s8jn7FAM3AZCmAjaQTo1n",
      [⟨"amount", "amount", "21.98765432"⟩, ⟨"label", "label", "Bob"⟩]⟩ := by
  decide +kernel

theorem split_labelFirst : split (withoutScheme labelFirst) =
    ⟨none, some "2MxGZTPhfGqcU4s8jn7FAM3AZCmAjaQTo1n",
      [⟨"label", "label", "Bob"⟩, ⟨"amount", "amount", "21.98765432"⟩]⟩ := by
  decide +kernel

/-- In English the capital letters of the scheme are of no consequence, and neither is the order of
the amount and the label. -/
theorem acceptsExactly_iff_english : AcceptsExactly (phone false) amountFirst ∧
    (new (phone false) (some labelFirst)).toOption =
      some ⟨⟨"2MxGZTPhfGqcU4s8jn7FAM3AZCmAjaQTo1n", none⟩, none, some "Bob", some 2198765432⟩ := by
  obtain ⟨hiff, horder⟩ := acceptsExactly_iff (lawful_phone false) amountFirst
  have hstrip (input : String) : (phone false).parse (stripScheme (phone false).locale input) =
      split (withoutScheme input) := by
    rw [stripScheme_of_recognised (recognised_of_not_turkic rfl input)]
    rfl
  refine ⟨hiff.mpr (Or.inl (recognised_of_not_turkic rfl _)), ?_⟩
  rw [← horder labelFirst]
  · rw [new, hstrip, split_amountFirst]
    decide +kernel
  · rw [hstrip, hstrip, split_amountFirst, split_labelFirst]
    exact ⟨rfl, rfl, .swap [] (by decide)⟩

/-- In Turkish the lower case of this text begins with `bıtcoın:`. -/
theorem not_acceptsExactly : (phone true).Lawful ∧
    ¬ AcceptsExactly (phone true) "BITCOIN:2MxGZTPhfGqcU4s8jn7FAM3AZCmAjaQTo1n" := by
  refine ⟨lawful_phone true, fun h => ?_⟩
  have hwithout : withoutScheme "BITCOIN:2MxGZTPhfGqcU4s8jn7FAM3AZCmAjaQTo1n" =
      "2MxGZTPhfGqcU4s8jn7FAM3AZCmAjaQTo1n" := by
    decide +kernel
  have hrec : ¬ Recognised (phone true).locale "BITCOIN:2MxGZTPhfGqcU4s8jn7FAM3AZCmAjaQTo1n" := by
    rw [recognised_iff_of_startsAnyCase (by decide +kernel)]
    decide +kernel
  have hpaid : (ofUri (phone true) (split "2MxGZTPhfGqcU4s8jn7FAM3AZCmAjaQTo1n")).toOption =
      some ⟨⟨"2MxGZTPhfGqcU4s8jn7FAM3AZCmAjaQTo1n", none⟩, none, none, none⟩ := by
    decide +kernel
  have hacc := (ofUri_eq_ok_iff (lawful_phone true)).mp (toOption_eq_some_iff.mp hpaid)
  have hnew := (h _).mpr (hwithout ▸ hacc)
  -- the scheme is still there
  rcases colon_mem_of_not_recognised hrec with hcolon | hcolon
  · exact not_acceptable_of_colon (lawful_phone true) hcolon
      ((ofUri_eq_ok_iff (lawful_phone true)).mp hnew).1
  · rw [hwithout] at hcolon
    exact absurd hcolon (by decide +kernel)

end BitcoinURI

end EclairMobile
