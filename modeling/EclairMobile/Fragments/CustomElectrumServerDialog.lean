import EclairMobile.Lib.Reach
import EclairMobile.Lib.Words

/-!
# CustomElectrumServerDialog

The dialog in which the user sets an Electrum server, and the configuration that is made of what it
stores.  Both parse the text with `HostAndPort.fromString`, but the dialog only asks whether it
parses, while the configuration is dropped if the host is empty.
-/

namespace EclairMobile

open Lib

/-- What `HostAndPort.fromString` makes of a text. -/
structure HostAndPort where
  host : String
  port : Option ℕ
  deriving DecidableEq, Repr

/-- `withDefaultPort(defaultPort).getPort()`. -/
def HostAndPort.portOr (address : HostAndPort) (defaultPort : ℕ) : ℕ :=
  address.port.getD defaultPort

/-! ### The dialog -/

structure CustomElectrumServerDialog where
  customCheckbox : Bool
  addressInput : String
  /-- `addressInputLayout` shows an error. -/
  error : Bool
  deriving DecidableEq, Repr

namespace CustomElectrumServerDialog

/-- The preferences, and the dialog if it is shown. -/
structure State where
  /-- The value of `CUSTOM_ELECTRUM_SERVER`, if it was ever stored. -/
  customElectrumServer : Option String := none
  dialog : Option CustomElectrumServerDialog := none
  deriving DecidableEq, Repr

inductive Action
  | shows
  | onCheckedChange (isChecked : Bool)
  | onTextChanged (s : String)
  | cancel
  | submit
  deriving DecidableEq, Repr

section

/-! `HostAndPort.fromString`, which throws on a text that it cannot parse. -/

variable (fromString : String → Option HostAndPort)

/-- An empty address is valid. -/
def validateAddress (address : String) : Bool := address = "" || (fromString address).isSome

/-- The dialog on the stored server; the text is set before the listener is there. -/
def new (prefs : Option String) : CustomElectrumServerDialog :=
  let serverString := trim (prefs.getD "")
  { customCheckbox := serverString ≠ "", addressInput := serverString, error := false }

def onTextChanged (dialog : CustomElectrumServerDialog) (s : String) : CustomElectrumServerDialog :=
  { dialog with addressInput := s, error := !validateAddress fromString (trim s) }

/-- The address that is stored on submit: nothing if the checkbox is not checked. -/
def serverAddress (dialog : CustomElectrumServerDialog) : String :=
  if dialog.customCheckbox then trim dialog.addressInput else ""

def step (s : State) : Action → Option State
  | .shows =>
    match s.dialog with
    | none => some { s with dialog := some (new s.customElectrumServer) }
    | some _ => none
  | .onCheckedChange isChecked =>
    s.dialog.map fun dialog => { s with dialog := some { dialog with customCheckbox := isChecked } }
  | .onTextChanged text =>
    s.dialog.map fun dialog => { s with dialog := some (dialog.onTextChanged fromString text) }
  | .cancel => s.dialog.map fun _ => { s with dialog := none }
  | .submit =>
    s.dialog.map fun dialog =>
      if dialog.error then s
      else { customElectrumServer := some dialog.serverAddress, dialog := none }

end

end CustomElectrumServerDialog

/-! ### The configuration -/

inductive ConfigValue
  | string (value : String)
  | int (value : ℕ)
  deriving DecidableEq, Repr

/-- A configuration, by the paths of its entries. -/
abbrev Config := List (String × ConfigValue)

/-- `host.endsWith(".onion")`. -/
def isOnion (host : String) : Bool := ".onion".toList.isSuffixOf host.toList

/-- The entries for an address.  With Tor no TLS is required, as Tor already adds a layer of
encryption. -/
def electrumConfig (address : HostAndPort) : Config :=
  [("eclair.electrum.host", .string address.host),
    ("eclair.electrum.port", .int (address.portOr 50002)),
    ("eclair.electrum.ssl", .string (if isOnion address.host then "off" else "strict"))]

def WalletUtils.getOverrideConfig (fromString : String → Option HostAndPort)
    (prefs : Option String) : Config :=
  let prefsElectrumAddress := trim (prefs.getD "")
  if prefsElectrumAddress ≠ "" then
    match fromString prefsElectrumAddress with
    | some address => if address.host ≠ "" then electrumConfig address else []
    -- the exception is logged
    | none => []
  else []

namespace CustomElectrumServerDialog

open WalletUtils

variable {fromString : String → Option HostAndPort}

/-! ### What the dialog stores -/

/-- The stored address is trimmed and valid, and so is the text of a dialog without an error. -/
structure Valid (fromString : String → Option HostAndPort) (s : State) : Prop where
  trimmed : trim (s.customElectrumServer.getD "") = s.customElectrumServer.getD ""
  stored : validateAddress fromString (s.customElectrumServer.getD "")
  input : ∀ dialog ∈ s.dialog, dialog.error = false →
    validateAddress fromString (trim dialog.addressInput)

theorem Valid.step {s s' : State} {a : Action} (hv : Valid fromString s)
    (h : step fromString s a = some s') : Valid fromString s' := by
  cases a with
  | shows =>
    cases hd : s.dialog with
    | none =>
      simp only [CustomElectrumServerDialog.step, hd] at h
      obtain rfl := Option.some.inj h
      refine ⟨hv.trimmed, hv.stored, ?_⟩
      rintro dialog hdialog -
      obtain rfl := Option.some.inj hdialog
      simpa [new, hv.trimmed] using hv.stored
    | some dialog => simp [CustomElectrumServerDialog.step, hd] at h
  | onCheckedChange isChecked =>
    obtain ⟨dialog, hd, rfl⟩ := Option.map_eq_some_iff.mp h
    refine ⟨hv.trimmed, hv.stored, ?_⟩
    rintro dialog' hdialog herror
    obtain rfl := Option.some.inj hdialog
    exact hv.input dialog hd herror
  | onTextChanged text =>
    obtain ⟨dialog, hd, rfl⟩ := Option.map_eq_some_iff.mp h
    refine ⟨hv.trimmed, hv.stored, ?_⟩
    rintro dialog' hdialog herror
    obtain rfl := Option.some.inj hdialog
    simpa [CustomElectrumServerDialog.onTextChanged] using herror
  | cancel =>
    obtain ⟨dialog, hd, rfl⟩ := Option.map_eq_some_iff.mp h
    exact ⟨hv.trimmed, hv.stored, by simp⟩
  | submit =>
    obtain ⟨dialog, hd, rfl⟩ := Option.map_eq_some_iff.mp h
    split
    · exact hv
    · next herror =>
      rw [Bool.not_eq_true] at herror
      refine ⟨?_, ?_, by simp⟩
      · simp only [serverAddress, Option.getD_some]
        split
        · exact trim_trim _
        · rfl
      · simp only [serverAddress, Option.getD_some]
        split
        · exact hv.input dialog hd herror
        · rfl

theorem valid_of_reach {s : State} (h : Reach (step fromString) anyStep (· = {}) s) :
    Valid fromString s := by
  refine Reach.invariant (I := Valid fromString) ?_ (fun _ _ _ hv _ hs => hv.step hs) s h
  rintro s rfl
  exact ⟨rfl, rfl, by simp⟩

/-! ### What becomes of it -/

/-- Nothing is configured for the empty address, and otherwise the host, port and TLS of the
address. -/
def OverrideRight (fromString : String → Option HostAndPort) (prefs : Option String) : Prop :=
  let text := prefs.getD ""
  let config := getOverrideConfig fromString prefs
  (text = "" ∧ config = []) ∨
    (text ≠ "" ∧ ∃ address, fromString text = some address ∧
      config.lookup "eclair.electrum.host" = some (.string address.host) ∧
      config.lookup "eclair.electrum.port" = some (.int (address.port.getD 50002)) ∧
      config.lookup "eclair.electrum.ssl" =
        some (.string (if isOnion address.host then "off" else "strict")))

theorem lookup_electrumConfig (address : HostAndPort) :
    (electrumConfig address).lookup "eclair.electrum.host" = some (.string address.host) ∧
    (electrumConfig address).lookup "eclair.electrum.port" =
      some (.int (address.port.getD 50002)) ∧
    (electrumConfig address).lookup "eclair.electrum.ssl" =
      some (.string (if isOnion address.host then "off" else "strict")) :=
  ⟨rfl, rfl, rfl⟩

/-- **What the dialog stores is configured exactly if it is empty or its host is not.** -/
theorem overrideRight_iff {s : State} (h : Reach (step fromString) anyStep (· = {}) s) :
    OverrideRight fromString s.customElectrumServer ↔
      (s.customElectrumServer.getD "" ≠ "" →
        ∀ address, fromString (s.customElectrumServer.getD "") = some address →
          address.host ≠ "") := by
  obtain ⟨htrim, hstored, -⟩ := valid_of_reach h
  unfold OverrideRight getOverrideConfig
  rw [htrim]
  by_cases hempty : s.customElectrumServer.getD "" = ""
  · simp [hempty]
  · obtain ⟨address, haddress⟩ : ∃ address,
        fromString (s.customElectrumServer.getD "") = some address := by
      rw [← Option.isSome_iff_exists]
      simpa [validateAddress, hempty] using hstored
    by_cases hhost : address.host = ""
    · simp [hempty, haddress, hhost]
    · simp [hempty, haddress, hhost, lookup_electrumConfig]

/-! ### Two addresses -/

/-- `HostAndPort.fromString` on a text without brackets: one colon separates the host from the port,
which may be missing, as may the host. -/
def splitAtColon (text : String) : Option HostAndPort :=
  match text.toList.splitOn ':' with
  | [host, port] =>
    if port.all Char.isDigit then
      some ⟨String.ofList host, (String.ofList port).toNat?⟩
    else none
  | _ => some ⟨text, none⟩

/-- The user checks the box, types an address and submits it. -/
def types (text : String) : List Action :=
  [.shows, .onCheckedChange true, .onTextChanged text, .submit]

/-- An address without a port, typed with blanks around it. -/
theorem overrideRight_host : OverrideRight splitAtColon (some "electrum.example.org") := by
  have hrun : run (step splitAtColon) {} (types " electrum.example.org ") =
      some { customElectrumServer := some "electrum.example.org" } := by decide +kernel
  refine (overrideRight_iff (reach_of_run rfl hrun)).mpr ?_
  intro _ address haddress
  have hparse : splitAtColon "electrum.example.org" = some ⟨"electrum.example.org", none⟩ := by
    decide +kernel
  obtain rfl := Option.some.inj (hparse.symm.trans haddress)
  decide

/-- An address without a host is accepted, and the default servers are used. -/
theorem not_overrideRight : ¬ ∀ fromString s, Reach (step fromString) anyStep (· = {}) s →
    OverrideRight fromString s.customElectrumServer := by
  intro h
  have hrun : run (step splitAtColon) {} (types ":50001") =
      some { customElectrumServer := some ":50001" } := by decide +kernel
  have hright := h splitAtColon _ (reach_of_run rfl hrun)
  have hconfig : getOverrideConfig splitAtColon (some ":50001") = [] := by decide +kernel
  unfold OverrideRight at hright
  rw [hconfig] at hright
  simp at hright

end CustomElectrumServerDialog

end EclairMobile
