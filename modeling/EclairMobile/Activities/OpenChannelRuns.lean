import EclairMobile.Activities.OpenChannelActivity
import EclairMobile.Lib.Counting

/-!
# Runs of the screen that opens a channel

Whatever is pressed, typed and answered in whatever order, a channel is opened with the capacity and
the fees of an order that passed all checks of the form, behind the PIN if it is asked for; and a
press opens one channel at most where no key changes a PIN whose confirmation is posted.
-/

namespace EclairMobile

open Lib

namespace OpenChannelActivity

variable {Rate : Type}

/-! ### What the form has checked -/

/-- The capacity and the fees are those of the fields, and the capacity is in the bounds and covered
by the balance. -/
structure Funding.Checked (u : ChannelUnits Rate) (funding : Funding) : Prop where
  capacity : u.convertStringAmountToSat funding.capacityValue = some funding.capacity
  minFunding_le : minFunding ≤ funding.capacity
  le_maxFunding : funding.capacity ≤ maxFunding
  le_balance : funding.capacity ≤ funding.onchainBalance
  fees : ∃ feesSatPerByte, parseLong funding.fundingFeesValue = some feesSatPerByte ∧
    funding.feesSatPerKW = u.feerateByte2Kw feesSatPerByte

section

variable {u : ChannelUnits Rate} {f : OpenChannelCapacityFragment} {capacity fees : ℤ}

namespace OpenChannelCapacityFragment

theorem extractCapacity_eq_some {onchainBalance : ℤ} {amount : String}
    (h : (extractCapacity u onchainBalance amount f).1 = some capacity) :
    u.convertStringAmountToSat amount = some capacity ∧ minFunding ≤ capacity ∧
      capacity ≤ maxFunding ∧ capacity ≤ onchainBalance := by
  unfold extractCapacity at h
  rcases hamount : u.convertStringAmountToSat amount with - | read
  · rw [hamount] at h
    cases h
  · rw [hamount] at h
    dsimp only at h
    split_ifs at h with hbounds hbalance
    obtain rfl := Option.some.inj h
    refine ⟨rfl, ?_, ?_, ?_⟩
    · omega
    · omega
    · omega

theorem extractFundingFees_eq_some {estimator : App.FeeEstimator} {feesString : String}
    (h : (extractFundingFees u estimator feesString f).1 = some fees) :
    ∃ feesSatPerByte, parseLong feesString = some feesSatPerByte ∧
      fees = u.feerateByte2Kw feesSatPerByte := by
  unfold extractFundingFees at h
  rcases hfees : parseLong feesString with - | feesSatPerByte
  · rw [hfees] at h
    cases h
  · rw [hfees] at h
    exact ⟨feesSatPerByte, rfl, (Option.some.inj h).symm⟩

theorem fields_extractCapacity (onchainBalance : ℤ) (amount : String) :
    (extractCapacity u onchainBalance amount f).2.capacityValue = f.capacityValue ∧
      (extractCapacity u onchainBalance amount f).2.fundingFeesValue = f.fundingFeesValue := by
  unfold extractCapacity
  split
  · exact ⟨rfl, rfl⟩
  · split_ifs
    · exact ⟨rfl, rfl⟩
    · exact ⟨rfl, rfl⟩
    · exact ⟨rfl, rfl⟩

theorem fields_uncheckAllFunds :
    f.uncheckAllFunds.capacityValue = f.capacityValue ∧
      f.uncheckAllFunds.fundingFeesValue = f.fundingFeesValue := by
  unfold uncheckAllFunds
  split
  · exact ⟨rfl, rfl⟩
  · exact ⟨rfl, rfl⟩

theorem fields_extractFundingFees (estimator : App.FeeEstimator) (feesString : String) :
    (extractFundingFees u estimator feesString f).2.capacityValue = f.capacityValue ∧
      (extractFundingFees u estimator feesString f).2.fundingFeesValue = f.fundingFeesValue := by
  have hsame := fields_uncheckAllFunds (f := { f with feesWarning := none, feesError := none })
  unfold extractFundingFees
  split
  · exact hsame
  · dsimp only
    split_ifs
    · exact hsame
    · exact hsame

/-- **What is handed over is checked.** -/
theorem checked_confirmOpenChannel {estimator : App.FeeEstimator} {onchainBalance : ℤ}
    {funding : Funding}
    (h : (confirmOpenChannel u estimator onchainBalance f).1 = some funding) :
    funding.Checked u := by
  unfold confirmOpenChannel at h
  dsimp only at h
  obtain ⟨capacity, hcapacity, h⟩ := Option.bind_eq_some_iff.mp h
  obtain ⟨fees, hfees, rfl⟩ := Option.map_eq_some_iff.mp h
  obtain ⟨hread, hmin, hmax, hbalance⟩ := extractCapacity_eq_some hcapacity
  have hsame := fields_extractCapacity (u := u) (f := f) onchainBalance f.capacityValue
  refine ⟨?_, hmin, hmax, hbalance, ?_⟩
  · dsimp only
    rw [(fields_extractFundingFees estimator _).1, hsame.1]
    exact hread
  · dsimp only
    rw [(fields_extractFundingFees estimator _).2]
    exact extractFundingFees_eq_some hfees

end OpenChannelCapacityFragment

end

/-! ### What an order may be -/

/-- The order was checked, and what it pushes is the cost of an offer of the node that sells
liquidity. -/
structure Order.Vetted (u : ChannelUnits Rate) (liquidityRequests : Option (Option Rate))
    (order : Order) : Prop where
  checked : order.funding.Checked u
  push : order.push = 0 ∨ order.nodeURI.nodeId = ACINQ_NODE_URI.nodeId ∧ order.push ≠ 0 ∧
    ∃ liquidityRate request, liquidityRequests = some (some liquidityRate) ∧
      order.push = u.cost (LiquidityRequest.inboundCapacity request) liquidityRate

/-- The PIN was entered, if it was asked for. -/
def Opening.Entered (o : Opening) : Prop :=
  o.order.isPinRequired = true → ∃ pin, o.pin = some (pin, pin)

/-- Offers that are loaded stay as they are. -/
theorem Order.Vetted.load {u : ChannelUnits Rate} {requests : Option (Option Rate)} {order : Order}
    (h : order.Vetted u requests) (loadedWith : Option Rate) :
    order.Vetted u (some (requests.getD loadedWith)) := by
  refine ⟨h.checked, h.push.imp_right ?_⟩
  rintro ⟨hnode, hne, rate, request, hrequests, hcost⟩
  refine ⟨hnode, hne, rate, request, ?_, hcost⟩
  rw [hrequests]
  rfl

/-- **Everything on the way to the switchboard is vetted.** -/
structure Sound (u : ChannelUnits Rate) (s : OpenChannelActivity Rate) : Prop where
  presses : ∀ press ∈ s.presses, press.order.Vetted u s.liquidityRequests
  connecting : ∀ o ∈ s.connecting, o.order.Vetted u s.liquidityRequests ∧ o.Entered
  sent : ∀ o ∈ s.sent, o.order.Vetted u s.liquidityRequests ∧ o.Entered
  funding : ∀ funding, s.mLiquidityFragment.funding = some funding → funding.Checked u
  listening : s.mLiquidityFragment.listening = true → ∃ liquidityRate,
    s.liquidityRequests = some (some liquidityRate) ∧
      ∀ request, LiquidityRequest.cost u (some liquidityRate) request ≠ 0
  liquidity : s.page = some .liquidity ∨ .liquidity ∈ s.transactions →
    s.nodeURI.map NodeURI.nodeId = some ACINQ_NODE_URI.nodeId
  reading : s.reading = true → s.page = none ∧ s.transactions = [] ∧ s.backStack = 0

/-- What the invariant looks at. -/
def view (s : OpenChannelActivity Rate) :=
  ((s.presses.map Press.order, s.connecting, s.sent, s.mLiquidityFragment.funding),
    (s.mLiquidityFragment.listening, s.liquidityRequests, s.page, s.transactions, s.nodeURI,
      s.backStack, s.reading))

section

variable {u : ChannelUnits Rate} {s s' : OpenChannelActivity Rate}

theorem Sound.of_view (h : s.Sound u) (hview : s'.view = s.view) : s'.Sound u := by
  obtain ⟨hmain, hrest⟩ := Prod.mk.inj hview
  obtain ⟨hpresses, hmain⟩ := Prod.mk.inj hmain
  obtain ⟨hconnecting, hmain⟩ := Prod.mk.inj hmain
  obtain ⟨hsent, hfunding⟩ := Prod.mk.inj hmain
  obtain ⟨hlistening, hrest⟩ := Prod.mk.inj hrest
  obtain ⟨hrequests, hrest⟩ := Prod.mk.inj hrest
  obtain ⟨hpage, hrest⟩ := Prod.mk.inj hrest
  obtain ⟨htransactions, hrest⟩ := Prod.mk.inj hrest
  obtain ⟨hnode, hrest⟩ := Prod.mk.inj hrest
  obtain ⟨hbackStack, hreading⟩ := Prod.mk.inj hrest
  refine ⟨?_, ?_, ?_, ?_, ?_, ?_, ?_⟩
  · intro press hpress
    have hmem : press.order ∈ s.presses.map Press.order := hpresses ▸ List.mem_map_of_mem hpress
    obtain ⟨press', hpress', heq⟩ := List.mem_map.mp hmem
    rw [← heq, hrequests]
    exact h.presses press' hpress'
  · rw [hconnecting, hrequests]
    exact h.connecting
  · rw [hsent, hrequests]
    exact h.sent
  · rw [hfunding]
    exact h.funding
  · rw [hlistening, hrequests]
    exact h.listening
  · rw [hpage, htransactions, hnode]
    exact h.liquidity
  · rw [hreading, hpage, htransactions, hbackStack]
    exact h.reading

/-! ### The pages -/

/-- The pending transactions change the page only. -/
theorem foldl_runTransaction (pages : List Page) (s : OpenChannelActivity Rate) :
    ∃ page backStack,
      pages.foldl runTransaction s = { s with page := page, backStack := backStack } ∧
        (page = s.page ∨ ∃ p ∈ pages, page = some p) := by
  induction pages generalizing s with
  | nil => exact ⟨s.page, s.backStack, rfl, .inl rfl⟩
  | cons p pages ih =>
    obtain ⟨page, backStack, heq, hpage⟩ := ih (s.runTransaction p)
    refine ⟨page, backStack, heq, .inr ?_⟩
    rcases hpage with hpage | ⟨p', hp', hpage⟩
    · exact ⟨p, List.mem_cons_self .., hpage⟩
    · exact ⟨p', List.mem_cons_of_mem _ hp', hpage⟩

theorem Sound.executePendingTransactions (h : s.Sound u) :
    s.executePendingTransactions.Sound u := by
  obtain ⟨page, backStack, heq, hpage⟩ :=
    foldl_runTransaction s.transactions { s with transactions := [] }
  unfold OpenChannelActivity.executePendingTransactions
  rw [heq]
  refine ⟨h.presses, h.connecting, h.sent, h.funding, h.listening, ?_, ?_⟩
  · rintro (hliquidity | hmem)
    · apply h.liquidity
      have hp : page = some .liquidity := hliquidity
      rcases hpage with hsame | ⟨p, hmem, hsome⟩
      · exact .inl (hsame.symm.trans hp)
      · obtain rfl := Option.some.inj (hsome.symm.trans hp)
        exact .inr hmem
    · exact absurd hmem List.not_mem_nil
  · intro hreading
    obtain ⟨hnone, hnil, hzero⟩ := h.reading hreading
    rw [hnil] at heq
    have hsame : s.backStack = backStack := congrArg OpenChannelActivity.backStack heq
    refine ⟨(congrArg OpenChannelActivity.page heq).symm.trans hnone, rfl, hsame.symm.trans hzero⟩

theorem Sound.onBackPressed (h : s.Sound u) : s.onBackPressed.Sound u := by
  have h0 := h.executePendingTransactions
  unfold OpenChannelActivity.onBackPressed
  dsimp only
  split
  · next hpos =>
    refine ⟨h0.presses, h0.connecting, h0.sent, h0.funding, h0.listening, ?_, ?_⟩
    · rintro (hliquidity | hmem)
      · cases hliquidity
      · exact h0.liquidity (.inr hmem)
    · intro hreading
      have hzero := (h0.reading hreading).2.2
      omega
  · exact h0.of_view rfl

theorem Sound.goToCapacityPage (h : s.Sound u) (hreading : s.reading = false) :
    s.goToCapacityPage.Sound u := by
  refine ⟨h.presses, h.connecting, h.sent, h.funding, h.listening, ?_, ?_⟩
  · rintro (hliquidity | hmem)
    · exact h.liquidity (.inl hliquidity)
    · apply h.liquidity
      rcases List.mem_append.mp hmem with hold | hnew
      · exact .inr hold
      · cases List.mem_singleton.mp hnew
  · intro htrue
    exact absurd (hreading.symm.trans htrue) (by decide)

/-- A page is there only when the URI was read. -/
theorem Sound.reading_of_page (h : s.Sound u) {page : Page} (hpage : s.page = some page) :
    s.reading = false := by
  rcases hreading : s.reading with - | -
  · rfl
  · rw [(h.reading hreading).1] at hpage
    cases hpage

theorem Sound.startLiquidity (h : s.Sound u) (hreading : s.reading = false) :
    (s.startLiquidity u).Sound u := by
  let loadedWith := s.liquidityRequests.getD s.walletContext
  have h0 : Sound u { s with liquidityRequests := some loadedWith } := by
    refine ⟨?_, ?_, ?_, h.funding, ?_, h.liquidity, h.reading⟩
    · exact fun press hpress => (h.presses press hpress).load _
    · exact fun o ho => ⟨(h.connecting o ho).1.load _, (h.connecting o ho).2⟩
    · exact fun o ho => ⟨(h.sent o ho).1.load _, (h.sent o ho).2⟩
    · intro hlistening
      obtain ⟨rate, hrequests, hcosts⟩ := h.listening hlistening
      refine ⟨rate, ?_, hcosts⟩
      show some (s.liquidityRequests.getD s.walletContext) = _
      rw [hrequests]
      rfl
  unfold OpenChannelActivity.startLiquidity
  dsimp only
  split
  · have h1 : Sound u { s with
        liquidityRequests := some loadedWith
        mLiquidityFragment := { s.mLiquidityFragment with liquidityOpt := none } } :=
      h0.of_view rfl
    exact h1.goToCapacityPage hreading
  · next hcosts =>
    push Not at hcosts
    refine ⟨h0.presses, h0.connecting, h0.sent, h0.funding, ?_, h0.liquidity, h0.reading⟩
    intro _
    -- without a wallet context the offers cost nothing
    rcases hloaded : loadedWith with - | rate
    · exact absurd (congrArg (LiquidityRequest.cost u · LiquidityRequest._10_MBTC) hloaded) hcosts.1
    · refine ⟨rate, congrArg some hloaded, ?_⟩
      rw [← hloaded]
      intro request
      cases request with
      | _10_MBTC => exact hcosts.1
      | _25_MBTC => exact hcosts.2.1
      | _50_MBTC => exact hcosts.2.2

/-! ### The orders -/

theorem Sound.openChannel_secure (h : s.Sound u) {nodeURI : Option NodeURI} {funding : Funding}
    {push : ℤ} (isPinRequired : Bool)
    (hvetted : ∀ uri, nodeURI = some uri →
      Order.Vetted u s.liquidityRequests ⟨uri, funding, push, isPinRequired⟩) :
    (s.openChannel_secure nodeURI funding push isPinRequired).Sound u := by
  unfold OpenChannelActivity.openChannel_secure
  rcases nodeURI with - | uri
  · exact h.of_view rfl
  · have hpresses : ∀ (press : Press), press.order = ⟨uri, funding, push, isPinRequired⟩ →
        ∀ p ∈ s.presses ++ [press], p.order.Vetted u s.liquidityRequests := by
      intro press horder p hp
      rcases List.mem_append.mp hp with hold | hnew
      · exact h.presses p hold
      · rw [List.mem_singleton.mp hnew, horder]
        exact hvetted uri rfl
    cases isPinRequired with
    | true =>
      exact ⟨hpresses _ rfl, h.connecting, h.sent, h.funding, h.listening, h.liquidity, h.reading⟩
    | false =>
      refine ⟨hpresses _ rfl, ?_, h.sent, h.funding, h.listening, h.liquidity, h.reading⟩
      intro o ho
      rcases List.mem_append.mp ho with hold | hnew
      · exact h.connecting o hold
      · rw [List.mem_singleton.mp hnew]
        exact ⟨hvetted uri rfl, nofun⟩

theorem Sound.onCapacityConfirm (h : s.Sound u) (hreading : s.reading = false)
    {funding : Funding} (hchecked : funding.Checked u) (requireLiquidity isPinRequired : Bool) :
    (s.onCapacityConfirm funding requireLiquidity isPinRequired).Sound u := by
  unfold OpenChannelActivity.onCapacityConfirm
  split
  · next hacinq =>
    split
    · exact h.of_view rfl
    · refine ⟨h.presses, h.connecting, h.sent, ?_, h.listening, fun _ => hacinq.2, ?_⟩
      · intro funding' hf
        obtain rfl := Option.some.inj hf
        exact hchecked
      · intro htrue
        exact absurd (hreading.symm.trans htrue) (by decide)
  · apply h.openChannel_secure
    exact fun uri _ => ⟨hchecked, .inl rfl⟩

theorem Sound.confirmOpenChannel (h : s.Sound u) (hreading : s.reading = false)
    (estimator : App.FeeEstimator) (onchainBalance : ℤ) (isPinRequired : Bool) :
    (s.confirmOpenChannel u estimator onchainBalance isPinRequired).Sound u := by
  have h0 : Sound u { s with mCapacityFragment :=
      (s.mCapacityFragment.confirmOpenChannel u estimator onchainBalance).2 } := h.of_view rfl
  unfold OpenChannelActivity.confirmOpenChannel
  dsimp only
  split
  · next funding hfunding =>
    have hchecked := OpenChannelCapacityFragment.checked_confirmOpenChannel hfunding
    exact h0.onCapacityConfirm hreading hchecked _ isPinRequired
  · exact h0

theorem Sound.onLiquidityConfirm (h : s.Sound u) (hpage : s.page = some .liquidity)
    (hlistening : s.mLiquidityFragment.listening = true) (isPinRequired : Bool) :
    (s.onLiquidityConfirm u isPinRequired).Sound u := by
  unfold OpenChannelActivity.onLiquidityConfirm
  rcases hfunding : s.mLiquidityFragment.funding with - | funding
  · exact h
  · dsimp only
    apply h.openChannel_secure
    intro uri huri
    refine ⟨h.funding funding hfunding, ?_⟩
    obtain ⟨rate, hrequests, hcosts⟩ := h.listening hlistening
    show OpenChannelActivity.push u s = 0 ∨ _
    unfold OpenChannelActivity.push
    rcases s.mLiquidityFragment.liquidityOpt with - | request
    · exact .inl rfl
    · have hnode := h.liquidity (.inl hpage)
      rw [huri] at hnode
      rw [hrequests]
      exact .inr ⟨Option.some.inj hnode, hcosts request, rate, request, rfl, rfl⟩

/-! ### The PIN and the connection -/

theorem dialog?_eq_some {i : ℕ} {press : Press} {dialog : PinDialog}
    (h : s.dialog? i = some (press, dialog)) :
    s.presses[i]? = some press ∧ press.dialog = some dialog := by
  unfold dialog? at h
  obtain ⟨press', hpress, hmap⟩ := Option.bind_eq_some_iff.mp h
  obtain ⟨dialog', hdialog, heq⟩ := Option.map_eq_some_iff.mp hmap
  obtain ⟨rfl, rfl⟩ := Prod.mk.inj heq
  exact ⟨hpress, hdialog⟩

theorem map_order_set {i : ℕ} {press press' : Press} (hpress : s.presses[i]? = some press)
    (horder : press'.order = press.order) :
    (s.presses.set i press').map Press.order = s.presses.map Press.order := by
  rw [List.map_set, horder]
  apply List.ext_getElem?
  intro j
  rw [List.getElem?_set]
  split
  · next hij =>
    subst hij
    obtain ⟨hlt, heq⟩ := List.getElem?_eq_some_iff.mp hpress
    rw [if_pos (by simpa using hlt), List.getElem?_map, hpress]
    rfl
  · rfl

theorem Sound.setPress (h : s.Sound u) {i : ℕ} {press press' : Press}
    (hpress : s.presses[i]? = some press) (horder : press'.order = press.order) :
    Sound u { s with presses := s.presses.set i press' } := by
  apply h.of_view
  unfold view
  rw [map_order_set hpress horder]

theorem Sound.onPinConfirm (h : s.Sound u) {i : ℕ} {press : Press} {dialog : PinDialog}
    (hd : s.dialog? i = some (press, dialog)) (app : Option String) :
    (s.onPinConfirm i press dialog app).Sound u := by
  obtain ⟨hpress, -⟩ := dialog?_eq_some hd
  unfold OpenChannelActivity.onPinConfirm
  rcases app with - | pin
  · have h1 : Sound u (s.setDialog i press dialog.confirm) := h.setPress hpress rfl
    exact h1.of_view rfl
  · dsimp only
    split
    · next hcorrect =>
      have h1 : Sound u { s with presses := s.presses.set i { press with
          openings := press.openings + 1
          dialog := some dialog.confirm.dismiss } } := h.setPress hpress rfl
      refine ⟨h1.presses, ?_, h1.sent, h1.funding, h1.listening, h1.liquidity, h1.reading⟩
      intro o ho
      rcases List.mem_append.mp ho with hold | hnew
      · exact h1.connecting o hold
      · rw [List.mem_singleton.mp hnew]
        refine ⟨h.presses press (List.mem_of_getElem? hpress), fun _ => ⟨pin, ?_⟩⟩
        rw [hcorrect]
    · have h1 : Sound u (s.setDialog i press dialog.confirm.dismiss) := h.setPress hpress rfl
      exact h1.of_view rfl

theorem Sound.onPause (h : s.Sound u) : s.onPause.Sound u := by
  unfold OpenChannelActivity.onPause
  split
  · next i press dialog hd =>
    obtain ⟨j, -, hmap⟩ := Option.bind_eq_some_iff.mp hd
    obtain ⟨d, hd', heq⟩ := Option.map_eq_some_iff.mp hmap
    obtain ⟨rfl, rfl⟩ := Prod.mk.inj heq
    exact h.setPress (dialog?_eq_some hd').1 rfl
  · exact h

theorem Sound.onConnectComplete (h : s.Sound u) {opening : Opening}
    (hmem : opening ∈ s.connecting) (answer : Option String) :
    (s.onConnectComplete opening answer).Sound u := by
  have h0 : Sound u { s with connecting := s.connecting.erase opening } :=
    ⟨h.presses, fun o ho => h.connecting o (List.mem_of_mem_erase ho), h.sent, h.funding,
      h.listening, h.liquidity, h.reading⟩
  unfold OpenChannelActivity.onConnectComplete
  dsimp only
  split
  · refine ⟨h0.presses, h0.connecting, ?_, h0.funding, h0.listening, h0.liquidity, h0.reading⟩
    intro o ho
    rcases List.mem_append.mp ho with hold | hnew
    · exact h.sent o hold
    · rw [List.mem_singleton.mp hnew]
      exact h.connecting opening hmem
  · exact h0.of_view rfl

/-! ### Every event -/

/-- Where an event finds a dialog, it is that of the press. -/
theorem onDialog_cases (i : ℕ) (f : Press → PinDialog → OpenChannelActivity Rate) :
    s.onDialog i f = s ∨ ∃ press dialog, s.dialog? i = some (press, dialog) ∧
      s.onDialog i f = f press dialog := by
  unfold onDialog
  rcases hd : s.dialog? i with - | ⟨press, dialog⟩
  · exact .inl rfl
  · exact .inr ⟨press, dialog, rfl, rfl⟩

theorem Sound.act (h : s.Sound u) {event : Event Rate} (hen : s.Enabled event) :
    (s.act u event).Sound u := by
  cases event with
  | processNodeURIFinish uri estimator =>
    have hreading : s.reading = true := hen
    obtain ⟨hnone, hnil, -⟩ := h.reading hreading
    rcases uri with - | uri
    · exact ⟨h.presses, h.connecting, h.sent, h.funding, h.listening, h.liquidity, nofun⟩
    · refine ⟨h.presses, h.connecting, h.sent, nofun, nofun, ?_, nofun⟩
      rintro (hliquidity | hmem)
      · exact absurd (hnone.symm.trans hliquidity) nofun
      · change Page.liquidity ∈ s.transactions ++ [.capacity] at hmem
        rw [hnil] at hmem
        cases List.mem_singleton.mp hmem
  | fetchedWalletContext liquidityRate => exact h.of_view rfl
  | startLiquidity =>
    obtain ⟨page, hpage⟩ := Option.isSome_iff_exists.mp hen
    exact h.startLiquidity (h.reading_of_page hpage)
  | executePendingTransactions => exact h.executePendingTransactions
  | typeCapacity | typeFees | pickFees | requestLiquidity | useAllFunds | allFunds
  | onCapacityBack => exact h.of_view rfl
  | confirmOpenChannel estimator onchainBalance isPinRequired =>
    exact h.confirmOpenChannel (h.reading_of_page hen) estimator onchainBalance isPinRequired
  | setLiquidityOpt request => exact h.of_view rfl
  | onLiquidityConfirm isPinRequired => exact h.onLiquidityConfirm hen.1 hen.2 isPinRequired
  | onLiquidityBack =>
    have h1 : Sound u { s with
        mLiquidityFragment := { s.mLiquidityFragment with liquidityOpt := none } } :=
      h.of_view rfl
    exact h1.goToCapacityPage (h.reading_of_page hen.1)
  | onBackPressed => exact h.onBackPressed
  | onClick i key =>
    show Sound u (s.onDialog i fun press dialog => s.setDialog i press (dialog.onClick key))
    rcases onDialog_cases (s := s) i fun press dialog => s.setDialog i press (dialog.onClick key)
      with heq | ⟨press, dialog, hd, heq⟩
    · rw [heq]
      exact h
    · rw [heq]
      exact h.setPress (dialog?_eq_some hd).1 rfl
  | onPinCancel i =>
    show Sound u (s.onDialog i fun press dialog => s.setDialog i press dialog.dismiss)
    rcases onDialog_cases (s := s) i fun press dialog => s.setDialog i press dialog.dismiss
      with heq | ⟨press, dialog, hd, heq⟩
    · rw [heq]
      exact h
    · rw [heq]
      exact h.setPress (dialog?_eq_some hd).1 rfl
  | onPinConfirm i app =>
    show Sound u (s.onDialog i fun press dialog => s.onPinConfirm i press dialog app)
    rcases onDialog_cases (s := s) i fun press dialog => s.onPinConfirm i press dialog app
      with heq | ⟨press, dialog, hd, heq⟩
    · rw [heq]
      exact h
    · rw [heq]
      exact h.onPinConfirm hd app
  | onPause => exact h.onPause
  | onConnectComplete opening answer => exact h.onConnectComplete hen answer

/-- The screen is opened, in a process in which offers may be loaded. -/
def Starts (s : OpenChannelActivity Rate) : Prop :=
  ∃ useDnsSeed walletContext liquidityRequests,
    s = onCreate useDnsSeed walletContext liquidityRequests

theorem Starts.sound (h : Starts s) : s.Sound u := by
  obtain ⟨useDnsSeed, walletContext, liquidityRequests, rfl⟩ := h
  refine ⟨nofun, nofun, nofun, nofun, nofun, ?_, fun _ => ⟨rfl, rfl, rfl⟩⟩
  rintro (hliquidity | hmem)
  · cases hliquidity
  · cases hmem

/-- **What the switchboard is asked to open.**  In every run, the capacity of a `Peer.OpenChannel`
was read from its field, is in the bounds of the form and was covered by the balance when it was
confirmed; the fee rate was read from its field; something is pushed to the node that sells
liquidity only, and it is the price of an offer at the one rate that the process has loaded; and if
the PIN was asked for, the PIN that was entered is that of the app. -/
theorem sent_of_reach (h : Reach (step u) anyStep Starts s) {o : Opening} (ho : o ∈ s.sent) :
    u.convertStringAmountToSat o.order.funding.capacityValue = some o.message.fundingSatoshis ∧
      minFunding ≤ o.message.fundingSatoshis ∧ o.message.fundingSatoshis ≤ maxFunding ∧
      o.message.fundingSatoshis ≤ o.order.funding.onchainBalance ∧
      (∃ feesSatPerByte, parseLong o.order.funding.fundingFeesValue = some feesSatPerByte ∧
        o.message.fundingTxFeeratePerKw_opt = some (u.feerateByte2Kw feesSatPerByte)) ∧
      (o.message.pushMsat ≠ 0 → o.message.remoteNodeId = ACINQ_NODE_URI.nodeId ∧
        ∃ liquidityRate request, s.liquidityRequests = some (some liquidityRate) ∧
          o.message.pushMsat = u.cost (LiquidityRequest.inboundCapacity request) liquidityRate) ∧
      (o.order.isPinRequired = true → ∃ pin, o.pin = some (pin, pin)) := by
  have hsound : s.Sound u := by
    refine Reach.invariant (I := Sound u) (fun _ h => h.sound) ?_ s h
    intro s event s' hs _ hstep
    obtain ⟨hen, rfl⟩ := step_eq_some_iff.mp hstep
    exact hs.act hen
  obtain ⟨hvetted, hentered⟩ := hsound.sent o ho
  obtain ⟨fees, hread, hrate⟩ := hvetted.checked.fees
  refine ⟨hvetted.checked.capacity, hvetted.checked.minFunding_le, hvetted.checked.le_maxFunding,
    hvetted.checked.le_balance, ⟨fees, hread, congrArg some hrate⟩, ?_, hentered⟩
  intro hpush
  rcases hvetted.push with hzero | ⟨hnode, -, hoffer⟩
  · exact absurd hzero hpush
  · exact ⟨hnode, hoffer⟩

end

/-! ### A channel with liquidity -/

namespace KnownRun

/-- The amounts in satoshi, and the rate in percent. -/
def units : ChannelUnits ℕ where
  convertStringAmountToSat := parseLong
  rawAmountInUnit := toString
  feerateByte2Kw feesSatPerByte := max (feesSatPerByte * 250) 253
  MAX_FUNDING := 16777216
  cost inboundCapacity_mbtc liquidityRate := inboundCapacity_mbtc * liquidityRate * 1000000

def estimator : App.FeeEstimator := fun _ => some 12000

/-- Liquidity is bought with the channel, behind the PIN. -/
def buys : List (Event ℕ) :=
  [.processNodeURIFinish (some ACINQ_NODE_URI) estimator, .fetchedWalletContext 1,
    .executePendingTransactions, .startLiquidity, .typeCapacity "2000000" 2500000,
    .requestLiquidity true, .confirmOpenChannel estimator 2500000 true,
    .executePendingTransactions, .setLiquidityOpt ._25_MBTC, .onLiquidityConfirm true] ++
    List.replicate 6 (.onClick 0 (.pinNum (Fin.last 9))) ++ [.onPinConfirm 0 (some "999999")]

def bought : Opening where
  order :=
    { nodeURI := ACINQ_NODE_URI
      funding :=
        { capacity := 2000000
          feesSatPerKW := 3000
          capacityValue := "2000000"
          fundingFeesValue := "12"
          onchainBalance := 2500000 }
      push := 25000000
      isPinRequired := true }
  pin := some ("999999", "999999")

theorem run_buys : (run (step units) (onCreate false none none)
    (buys ++ [.onConnectComplete bought (some "connected")])).map
      (fun s => (s.sent, s.presses.map Press.order)) = some ([bought], [bought.order]) := by
  decide +kernel

theorem sent_of_reach_bought : ∃ s : OpenChannelActivity ℕ, s.sent = [bought] ∧
    units.convertStringAmountToSat bought.order.funding.capacityValue =
        some bought.message.fundingSatoshis ∧
      minFunding ≤ bought.message.fundingSatoshis ∧
      bought.message.fundingSatoshis ≤ maxFunding ∧
      bought.message.fundingSatoshis ≤ bought.order.funding.onchainBalance ∧
      (∃ feesSatPerByte, parseLong bought.order.funding.fundingFeesValue = some feesSatPerByte ∧
        bought.message.fundingTxFeeratePerKw_opt = some (units.feerateByte2Kw feesSatPerByte)) ∧
      (bought.message.pushMsat ≠ 0 → bought.message.remoteNodeId = ACINQ_NODE_URI.nodeId ∧
        ∃ liquidityRate request, s.liquidityRequests = some (some liquidityRate) ∧
          bought.message.pushMsat =
            units.cost (LiquidityRequest.inboundCapacity request) liquidityRate) ∧
      (bought.order.isPinRequired = true → ∃ pin, bought.pin = some (pin, pin)) := by
  obtain ⟨s, hs, hview⟩ := Option.map_eq_some_iff.mp run_buys
  have hsent : s.sent = [bought] := (Prod.mk.inj hview).1
  have hreach : Reach (step units) anyStep Starts s := reach_of_run ⟨false, none, none, rfl⟩ hs
  have hmem : bought ∈ s.sent := by
    rw [hsent]
    exact List.mem_singleton_self _
  exact ⟨s, hsent, sent_of_reach hreach hmem⟩

end KnownRun

/-! ### One channel for each press -/

/-- No channel is opened while a confirmation is posted, or before one has run. -/
structure Press.Sound (press : Press) : Prop where
  openings_le : press.openings ≤ 1
  dialog_sound : ∀ dialog ∈ press.dialog, dialog.Sound
  of_posted : ∀ dialog ∈ press.dialog, 0 < dialog.posted → press.openings = 0
  of_confirmed : ∀ dialog ∈ press.dialog, dialog.confirmed = [] → press.openings = 0

/-- The keys are pressed with care: they take nothing away while a confirmation is posted, and
complete no PIN after one has run. -/
def Careful (s : OpenChannelActivity Rate) : Event Rate → Prop
  | .onClick i key => ((s.dialog? i).all fun d => decide (d.2.Careful key)) = true
  | _ => True

instance (s : OpenChannelActivity Rate) : DecidablePred s.Careful := by
  intro event
  unfold Careful
  split <;> infer_instance

/-- The openings of the orders of a kind are those of presses that have opened. -/
structure Once (s : OpenChannelActivity Rate) : Prop where
  presses : ∀ press ∈ s.presses, press.Sound
  counted : ∀ p : Order → Bool, (s.connecting ++ s.sent).countP (fun o => p o.order) ≤
    s.presses.countP fun press => p press.order && press.openings = 1

section

variable {u : ChannelUnits Rate} {s s' : OpenChannelActivity Rate} {i : ℕ} {press press' : Press}

theorem Once.of_eq (h : s.Once) (hpresses : s'.presses = s.presses)
    (hconnecting : s'.connecting = s.connecting) (hsent : s'.sent = s.sent) : s'.Once := by
  refine ⟨?_, ?_⟩
  · rw [hpresses]
    exact h.presses
  · rw [hpresses, hconnecting, hsent]
    exact h.counted

theorem Once.setPress (h : s.Once) (hpress : s.presses[i]? = some press) (hsound : press'.Sound)
    (horder : press'.order = press.order) (hopenings : press'.openings = press.openings) :
    Once { s with presses := s.presses.set i press' } := by
  refine ⟨forall_mem_set h.presses hsound, ?_⟩
  intro p
  have hcount := countP_set_add hpress press' fun press => p press.order && press.openings = 1
  rw [horder, hopenings] at hcount
  have hle := h.counted p
  show (s.connecting ++ s.sent).countP _ ≤ (s.presses.set i press').countP _
  omega

/-- A press opens its channel. -/
theorem Once.opens (h : s.Once) {pin : Option (String × String)}
    (hpress : s.presses[i]? = some press) (hsound : press'.Sound)
    (horder : press'.order = press.order) (hbefore : press.openings = 0)
    (hafter : press'.openings = 1) :
    Once (doOpenChannel { order := press.order, pin := pin }
      { s with presses := s.presses.set i press' }) := by
  refine ⟨forall_mem_set h.presses hsound, ?_⟩
  intro p
  have hcount := countP_set_add hpress press' fun press => p press.order && press.openings = 1
  rw [horder, hbefore, hafter] at hcount
  have hle := h.counted p
  show ((s.connecting ++ [_]) ++ s.sent).countP _ ≤ (s.presses.set i press').countP _
  rw [List.countP_append] at hle
  rw [List.countP_append, List.countP_append, List.countP_singleton]
  simp at hcount ⊢
  omega

theorem Once.openChannel_secure (h : s.Once) (nodeURI : Option NodeURI) (funding : Funding)
    (push : ℤ) (isPinRequired : Bool) :
    (s.openChannel_secure nodeURI funding push isPinRequired).Once := by
  unfold OpenChannelActivity.openChannel_secure
  rcases nodeURI with - | uri
  · exact h.of_eq rfl rfl rfl
  · have hpresses : ∀ press : Press, press.Sound → ∀ q ∈ s.presses ++ [press], q.Sound := by
      intro press hsound q hq
      rcases List.mem_append.mp hq with hold | hnew
      · exact h.presses q hold
      · rw [List.mem_singleton.mp hnew]
        exact hsound
    cases isPinRequired with
    | true =>
      refine ⟨hpresses _ ⟨Nat.zero_le 1, ?_, fun _ _ _ => rfl, fun _ _ _ => rfl⟩, ?_⟩
      · intro dialog hdialog
        obtain rfl := Option.some.inj hdialog
        exact PinDialog.Sound.new.shows
      · intro p
        have hle := h.counted p
        show (s.connecting ++ s.sent).countP _ ≤ (s.presses ++ [_]).countP _
        rw [List.countP_append] at hle
        rw [List.countP_append, List.countP_append]
        omega
    | false =>
      refine ⟨hpresses _ ⟨Nat.le_refl 1, nofun, nofun, nofun⟩, ?_⟩
      intro p
      have hle := h.counted p
      show ((s.connecting ++ [_]) ++ s.sent).countP _ ≤ (s.presses ++ [_]).countP _
      rw [List.countP_append] at hle
      rw [List.countP_append, List.countP_append, List.countP_append, List.countP_singleton,
        List.countP_singleton]
      simp
      omega

theorem Once.confirmOpenChannel (h : s.Once) (estimator : App.FeeEstimator) (onchainBalance : ℤ)
    (isPinRequired : Bool) :
    (s.confirmOpenChannel u estimator onchainBalance isPinRequired).Once := by
  have h0 : Once { s with mCapacityFragment :=
      (s.mCapacityFragment.confirmOpenChannel u estimator onchainBalance).2 } := h.of_eq rfl rfl rfl
  unfold OpenChannelActivity.confirmOpenChannel
  dsimp only
  split
  · unfold OpenChannelActivity.onCapacityConfirm
    split
    · split
      · exact h0.of_eq rfl rfl rfl
      · exact h0.of_eq rfl rfl rfl
    · exact h0.openChannel_secure _ _ _ _
  · exact h0

theorem Once.onPinConfirm (h : s.Once) {dialog : PinDialog}
    (hd : s.dialog? i = some (press, dialog)) (hposted : 0 < dialog.posted) (app : Option String) :
    (s.onPinConfirm i press dialog app).Once := by
  obtain ⟨hpress, hdialog⟩ := dialog?_eq_some hd
  have hsound := h.presses press (List.mem_of_getElem? hpress)
  have hzero := hsound.of_posted dialog hdialog hposted
  have hconfirm := (hsound.dialog_sound dialog hdialog).confirm hposted
  have hnone : dialog.confirm.posted = 0 := by
    show dialog.posted - 1 = 0
    have := (hsound.dialog_sound dialog hdialog).posted_le
    omega
  -- a confirmed dialog with this many openings
  have hnew : ∀ closed : PinDialog, closed.Sound → closed.posted = 0 → closed.confirmed ≠ [] →
      ∀ n ≤ 1, Press.Sound { press with openings := n, dialog := some closed } := by
    intro closed hclosed hposted hconfirmed n hn
    refine ⟨hn, ?_, ?_, ?_⟩
    · intro d hd
      obtain rfl := Option.some.inj hd
      exact hclosed
    · intro d hd hpos
      obtain rfl := Option.some.inj hd
      omega
    · intro d hd hnil
      obtain rfl := Option.some.inj hd
      exact absurd hnil hconfirmed
  have hconfirmed : dialog.confirm.confirmed ≠ [] := by simp [PinDialog.confirm]
  unfold OpenChannelActivity.onPinConfirm
  rcases app with - | pin
  · have h1 : (s.setDialog i press dialog.confirm).Once :=
      h.setPress hpress (hnew _ hconfirm hnone hconfirmed _ hsound.openings_le) rfl rfl
    exact h1.of_eq rfl rfl rfl
  · dsimp only
    split
    · have hone : press.openings + 1 ≤ 1 := by omega
      exact h.opens hpress (hnew _ hconfirm.dismiss hnone hconfirmed _ hone) rfl hzero
        (congrArg (· + 1) hzero)
    · have h1 : (s.setDialog i press dialog.confirm.dismiss).Once :=
        h.setPress hpress (hnew _ hconfirm.dismiss hnone hconfirmed _ hsound.openings_le) rfl rfl
      exact h1.of_eq rfl rfl rfl

theorem Press.Sound.dismiss {dialog : PinDialog} (h : press.Sound)
    (hdialog : press.dialog = some dialog) :
    Press.Sound { press with dialog := some dialog.dismiss } := by
  refine ⟨h.openings_le, ?_, ?_, ?_⟩
  · intro d hd
    obtain rfl := Option.some.inj hd
    exact (h.dialog_sound dialog hdialog).dismiss
  · intro d hd
    obtain rfl := Option.some.inj hd
    exact h.of_posted dialog hdialog
  · intro d hd
    obtain rfl := Option.some.inj hd
    exact h.of_confirmed dialog hdialog

@[simp] theorem confirmed_onClick (dialog : PinDialog) (key : PinKey) :
    (dialog.onClick key).confirmed = dialog.confirmed := by
  cases key with
  | pinNum n =>
    show (dialog.pinNum n).confirmed = _
    unfold PinDialog.pinNum
    split
    · rfl
    · rfl
  | pinNumClear => rfl
  | pinBackspace =>
    show dialog.pinBackspace.confirmed = _
    unfold PinDialog.pinBackspace
    split
    · rfl
    · rfl

/-- A key that is pressed with care. -/
theorem Press.Sound.onClick {dialog : PinDialog} {key : PinKey} (h : press.Sound)
    (hdialog : press.dialog = some dialog) (hcareful : dialog.Careful key) :
    Press.Sound { press with dialog := some (dialog.onClick key) } := by
  have hsound := h.dialog_sound dialog hdialog
  refine ⟨h.openings_le, ?_, ?_, ?_⟩
  · intro d hd
    obtain rfl := Option.some.inj hd
    exact hsound.onClick hcareful
  · intro d hd hpos
    obtain rfl := Option.some.inj hd
    rcases hsound.posted_onClick hpos with hold | hcompletes
    · exact h.of_posted dialog hdialog hold
    · exact h.of_confirmed dialog hdialog (hcareful.2 hcompletes)
  · intro d hd hnil
    obtain rfl := Option.some.inj hd
    rw [confirmed_onClick] at hnil
    exact h.of_confirmed dialog hdialog hnil

theorem Once.dismiss (h : s.Once) {dialog : PinDialog}
    (hd : s.dialog? i = some (press, dialog)) : (s.setDialog i press dialog.dismiss).Once := by
  obtain ⟨hpress, hdialog⟩ := dialog?_eq_some hd
  have hsound := h.presses press (List.mem_of_getElem? hpress)
  exact h.setPress hpress (hsound.dismiss hdialog) rfl rfl

theorem Once.onConnectComplete (h : s.Once) {opening : Opening} (hmem : opening ∈ s.connecting)
    (answer : Option String) : (s.onConnectComplete opening answer).Once := by
  have hperm : s.connecting.Perm (opening :: s.connecting.erase opening) :=
    List.perm_cons_erase hmem
  unfold OpenChannelActivity.onConnectComplete
  dsimp only
  split
  · refine ⟨h.presses, ?_⟩
    intro p
    have hle := h.counted p
    have hcount := hperm.countP_eq fun o => p o.order
    rw [List.countP_cons] at hcount
    rw [List.countP_append] at hle
    show (s.connecting.erase opening ++ (s.sent ++ [opening])).countP _ ≤ s.presses.countP _
    rw [List.countP_append, List.countP_append, List.countP_singleton]
    omega
  · refine ⟨h.presses, ?_⟩
    intro p
    have hle := h.counted p
    have hcount := hperm.countP_eq fun o => p o.order
    rw [List.countP_cons] at hcount
    rw [List.countP_append] at hle
    show (s.connecting.erase opening ++ s.sent).countP _ ≤ s.presses.countP _
    rw [List.countP_append]
    omega

theorem Once.executePendingTransactions (h : s.Once) : s.executePendingTransactions.Once := by
  obtain ⟨page, backStack, heq, -⟩ :=
    foldl_runTransaction s.transactions { s with transactions := [] }
  unfold OpenChannelActivity.executePendingTransactions
  rw [heq]
  exact h.of_eq rfl rfl rfl

theorem Once.act (h : s.Once) {event : Event Rate} (hen : s.Enabled event)
    (hok : s.Careful event) : (s.act u event).Once := by
  cases event with
  | processNodeURIFinish uri estimator =>
    rcases uri with - | uri
    · exact h.of_eq rfl rfl rfl
    · exact h.of_eq rfl rfl rfl
  | startLiquidity =>
    show (s.startLiquidity u).Once
    unfold OpenChannelActivity.startLiquidity
    dsimp only
    split
    · exact h.of_eq rfl rfl rfl
    · exact h.of_eq rfl rfl rfl
  | executePendingTransactions => exact h.executePendingTransactions
  | fetchedWalletContext | typeCapacity | typeFees | pickFees | requestLiquidity | useAllFunds
  | allFunds | onCapacityBack | setLiquidityOpt | onLiquidityBack => exact h.of_eq rfl rfl rfl
  | confirmOpenChannel estimator onchainBalance isPinRequired =>
    exact h.confirmOpenChannel estimator onchainBalance isPinRequired
  | onLiquidityConfirm isPinRequired =>
    show (s.onLiquidityConfirm u isPinRequired).Once
    unfold OpenChannelActivity.onLiquidityConfirm
    split
    · exact h.openChannel_secure _ _ _ _
    · exact h
  | onBackPressed =>
    have h0 := h.executePendingTransactions
    show s.onBackPressed.Once
    unfold OpenChannelActivity.onBackPressed
    dsimp only
    split
    · exact h0.of_eq rfl rfl rfl
    · exact h0.of_eq rfl rfl rfl
  | onClick i key =>
    show (s.onDialog i fun press dialog => s.setDialog i press (dialog.onClick key)).Once
    rcases onDialog_cases (s := s) i fun press dialog => s.setDialog i press (dialog.onClick key)
      with heq | ⟨press, dialog, hd, heq⟩
    · rw [heq]
      exact h
    · rw [heq]
      obtain ⟨hpress, hdialog⟩ := dialog?_eq_some hd
      have hsound := h.presses press (List.mem_of_getElem? hpress)
      have hcareful : ((s.dialog? i).all fun d => decide (d.2.Careful key)) = true := hok
      rw [hd] at hcareful
      exact h.setPress hpress (hsound.onClick hdialog (of_decide_eq_true hcareful)) rfl rfl
  | onPinCancel i =>
    show (s.onDialog i fun press dialog => s.setDialog i press dialog.dismiss).Once
    rcases onDialog_cases (s := s) i fun press dialog => s.setDialog i press dialog.dismiss
      with heq | ⟨press, dialog, hd, heq⟩
    · rw [heq]
      exact h
    · rw [heq]
      exact h.dismiss hd
  | onPinConfirm i app =>
    have hposted : ((s.dialog? i).any fun d => 0 < d.2.posted) = true := hen
    show (s.onDialog i fun press dialog => s.onPinConfirm i press dialog app).Once
    rcases onDialog_cases (s := s) i fun press dialog => s.onPinConfirm i press dialog app
      with heq | ⟨press, dialog, hd, heq⟩
    · rw [heq]
      exact h
    · rw [heq]
      rw [hd] at hposted
      exact h.onPinConfirm hd (of_decide_eq_true hposted) app
  | onPause =>
    show s.onPause.Once
    unfold OpenChannelActivity.onPause
    split
    · next i press dialog hd =>
      obtain ⟨j, -, hmap⟩ := Option.bind_eq_some_iff.mp hd
      obtain ⟨d, hd', heq⟩ := Option.map_eq_some_iff.mp hmap
      obtain ⟨rfl, rfl⟩ := Prod.mk.inj heq
      exact h.dismiss hd'
    · exact h
  | onConnectComplete opening answer => exact h.onConnectComplete hen answer

/-- **A press opens one channel at most**, where the keys of the dialogs are pressed with care: of
the orders of any kind, no more are opened than were given. -/
theorem once_of_reach (h : Reach (step u) Careful Starts s) (p : Order → Bool) :
    s.sent.countP (fun o => p o.order) ≤ s.presses.countP fun press => p press.order := by
  have honce : s.Once := by
    refine Reach.invariant (I := Once) ?_ ?_ s h
    · rintro s ⟨useDnsSeed, walletContext, liquidityRequests, rfl⟩
      exact ⟨nofun, fun _ => Nat.le_refl 0⟩
    · intro s event s' hs hok hstep
      obtain ⟨hen, rfl⟩ := step_eq_some_iff.mp hstep
      exact hs.act hen hok
  have hcount := honce.counted p
  rw [List.countP_append] at hcount
  have hle : (s.presses.countP fun press => p press.order && press.openings = 1) ≤
      s.presses.countP fun press => p press.order := by
    apply List.countP_mono_left
    intro press _ hboth
    exact (Bool.and_eq_true_iff.mp hboth).1
  omega

end

/-- The order of the bought channel is opened once. -/
theorem once_of_reach_bought : ∃ s : OpenChannelActivity ℕ, s.sent = [KnownRun.bought] ∧
    s.presses.map Press.order = [KnownRun.bought.order] ∧
      s.sent.countP (fun o => o.order == KnownRun.bought.order) ≤
        s.presses.countP fun press => press.order == KnownRun.bought.order := by
  obtain ⟨s, hs, hview⟩ := Option.map_eq_some_iff.mp KnownRun.run_buys
  obtain ⟨hsent, horders⟩ := Prod.mk.inj hview
  have hmeets : Meets (step KnownRun.units) Careful (onCreate false none none)
      (KnownRun.buys ++ [.onConnectComplete KnownRun.bought (some "connected")]) := by
    decide +kernel
  have hreach : Reach (step KnownRun.units) Careful Starts s :=
    reach_of_meets ⟨false, none, none, rfl⟩ hmeets hs
  exact ⟨s, hsent, horders, once_of_reach hreach fun order => order == KnownRun.bought.order⟩

end OpenChannelActivity

end EclairMobile
