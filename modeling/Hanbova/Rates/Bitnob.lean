import Hanbova.Api.Config
import Hanbova.Library.Stages
import Hanbova.Library.Uuid
import Hanbova.Rates.Batch

/-! The rate provider of the server and the routes over it: `providers/rates.rs`, `routes/rates.rs`.
Every rate that is served was quoted under its own labels. -/
namespace Hanbova

open Library Library.Text Library.System

/-- The body of a request for a quote. -/
structure BitnobPayload where
  fromAsset : String
  toCurrency : String
  amount : String
  country : String
  deriving DecidableEq

/-- What the libraries make of values: the JSON of a payload, an HMAC-SHA256 under a secret, and the
customer-facing text of a rate. -/
structure BitnobLibrary where
  json : BitnobPayload → String
  hmac : String → String → Except String (List UInt8)
  formatDisplay : String → String → BitVec 64 → String

structure BitnobRequest where
  url : String
  headers : List (String × String)
  body : String
  deriving DecidableEq

structure BitnobExchangeRateDetails where
  rate : Option (BitVec 64)

structure BitnobQuoteData where
  rate : Option (BitVec 64)
  exchangeRate : Option BitnobExchangeRateDetails

structure BitnobQuoteResponse where
  data : Option BitnobQuoteData
  message : Option String

/-- What comes back for a request: no response, one of another status with its body, one that does
not parse, or a quote. -/
inductive BitnobReply
  | failed (message : String)
  | rejected (status body : String)
  | unreadable (message : String)
  | quoted (response : BitnobQuoteResponse)

/-- What one call of the provider reads from outside: the clock, its nonce, and the reply. -/
structure BitnobExchange where
  sentAt : DateTime
  nonce : Vector UInt8 16
  reply : BitnobRequest → BitnobReply
  readAt : DateTime

/-- `timestamp() as u64`. -/
def BitnobExchange.timestamp (x : BitnobExchange) : UInt64 := UInt64.ofInt x.sentAt.timestamp

def BitnobExchange.nonceHex (x : BitnobExchange) : String :=
  String.ofList (x.nonce.toList.flatMap Uuid.hexByte)

structure BitnobRateProvider where
  clientId : Option String
  clientSecret : Option String
  apiKey : Option String
  environment : String
  baseUrl : String

/-- `rate > 0.0`, on the bits of a double: no sign, not zero, and at most infinity. -/
def isPositive (rate : BitVec 64) : Bool := 0 < rate && rate ≤ 0x7ff0000000000000

/-- `HanbovaRate::new`. -/
def HanbovaRate.new (lib : BitnobLibrary) (market base quote settlementAsset : String)
    (rate : BitVec 64) (provider environment : String) (isLive isStale : Bool)
    (updatedAt : DateTime) (expiresAt : Option DateTime) : HanbovaRate :=
  { market := market, base := base, quote := quote, display := lib.formatDisplay base quote rate
    settlementAsset := settlementAsset, rate := rate, provider := provider
    environment := environment, isLive := isLive, isStale := isStale, updatedAt := updatedAt
    expiresAt := expiresAt }

namespace BitnobRateProvider

/-- A variable that is set to more than white space. -/
def nonBlank (vars : Vars) (name : String) : Option String :=
  (vars.lookup name).filter fun s => trim s ≠ ""

def defaultUrl (environment : String) : String :=
  match environment with
  | "production" => "https://api.bitnob.co"
  | _ => "https://sandboxapi.bitnob.co"

/-- `BitnobRateProvider::new`, from the environment variables. -/
def new (vars : Vars) : BitnobRateProvider :=
  let clientId := nonBlank vars "BITNOB_CLIENT_ID"
  let clientSecret := nonBlank vars "BITNOB_CLIENT_SECRET"
  let apiKey := nonBlank vars "BITNOB_API_KEY"
  let environment := (vars.lookup "BITNOB_ENVIRONMENT").getD
    (if clientId.isSome ∨ apiKey.isSome then "sandbox" else "mock")
  ⟨clientId, clientSecret, apiKey, environment, defaultUrl environment⟩

/-- The rates of the mock mode: 1565, 132.5, 15.4, 18.2, 3750, 1310, 2680 and 1. -/
def mockRate (asset currency : String) : BitVec 64 :=
  match asset, currency with
  | "USDT", "NGN" | "USD", "NGN" => 0x4098740000000000
  | "USDT", "KES" | "USD", "KES" => 0x4060900000000000
  | "USDT", "GHS" | "USD", "GHS" => 0x402ecccccccccccd
  | "USDT", "ZAR" | "USD", "ZAR" => 0x4032333333333333
  | "USDT", "UGX" | "USD", "UGX" => 0x40ad4c0000000000
  | "USDT", "RWF" | "USD", "RWF" => 0x4094780000000000
  | "USDT", "TZS" | "USD", "TZS" => 0x40a4f00000000000
  | "USDT", "USD" | "USD", "USD" => 0x3ff0000000000000
  | _, _ => 0x4098740000000000

variable (lib : BitnobLibrary) (U : UpperTable) (provider : BitnobRateProvider)

/-- The credentials of a request. An API key in the sandbox has no secret. -/
def credentials : Except ProviderError (String × String) :=
  match provider.clientId, provider.clientSecret with
  | some clientId, some clientSecret => .ok (clientId, clientSecret)
  | _, _ =>
    if provider.environment = "production" then
      .error (.notConfigured "Bitnob API credentials missing in production")
    else if provider.environment = "sandbox" then
      match provider.apiKey with
      | some key => .ok (key, "")
      | none => .error (.notConfigured "Bitnob credentials not configured in sandbox")
    else .error (.notConfigured "Bitnob credentials not configured")

/-- The hex of an HMAC over `CLIENT_ID:TIMESTAMP:NONCE:PAYLOAD`. -/
def generateSignature (clientId clientSecret : String) (timestamp : UInt64)
    (nonce payload : String) : Except ProviderError String :=
  match lib.hmac clientSecret s!"{clientId}:{timestamp}:{nonce}:{payload}" with
  | .ok bytes => .ok (String.ofList (bytes.flatMap Uuid.hexByte))
  | .error e => .error (.internal s!"HMAC initialization failed: {e}")

/-- The headers with the credentials: a signature where there is a secret, else a bearer token. -/
def authorization (clientId clientSecret payload : String) (x : BitnobExchange) :
    Except ProviderError (List (String × String)) :=
  if clientSecret = "" then .ok [("Authorization", s!"Bearer {clientId}")]
  else do
    let signature ← generateSignature lib clientId clientSecret x.timestamp x.nonceHex payload
    return [("X-Auth-Client", clientId), ("X-Auth-Timestamp", toString x.timestamp),
      ("X-Auth-Nonce", x.nonceHex), ("X-Auth-Signature", signature)]

def request (clientId clientSecret payload : String) (x : BitnobExchange) :
    Except ProviderError BitnobRequest := do
  let authorization ← authorization lib clientId clientSecret payload x
  return ⟨s!"{provider.baseUrl}/api/v1/payouts/quotes",
    [("Content-Type", "application/json"), ("Accept", "application/json")] ++ authorization,
    payload⟩

def extractedRate (response : BitnobQuoteResponse) : Option (BitVec 64) :=
  response.data.bind fun d => d.rate.or (d.exchangeRate.bind fun er => er.rate)

/-- The rate of a quote, if the reply is one and its rate is positive. -/
def readReply (reply : BitnobReply) : Except ProviderError (BitVec 64) :=
  match reply with
  | .failed e => .error (.unavailable s!"Bitnob request failed: {e}")
  | .rejected status errBody => .error (.unavailable s!"Bitnob HTTP {status}: {errBody}")
  | .unreadable e => .error (.internal s!"Failed to parse Bitnob quote: {e}")
  | .quoted parsed =>
    match (extractedRate parsed).filter isPositive with
    | some rate => .ok rate
    | none => .error (.unavailable (parsed.message.getD "No rate returned in Bitnob response"))

def getRate (market settlementAsset targetCurrency : String) (x : BitnobExchange) :
    ProviderResult := do
  let marketUpper := U.toUppercase (trim market)
  let assetUpper := U.toUppercase (trim settlementAsset)
  let currencyUpper := U.toUppercase (trim targetCurrency)
  if provider.environment = "mock" then
    return .new lib marketUpper "USD" currencyUpper assetUpper (mockRate assetUpper currencyUpper)
      "bitnob" "mock" false false x.readAt none
  else
    let (clientId, clientSecret) ← provider.credentials
    let payload := lib.json ⟨assetUpper, currencyUpper, "1", marketUpper⟩
    let request ← provider.request lib clientId clientSecret payload x
    let rate ← readReply (x.reply request)
    return .new lib marketUpper "USD" currencyUpper assetUpper rate "bitnob" provider.environment
      (provider.environment == "production") false x.readAt none

/-- The provider has given every answer that the calls of a run were given, in one of the exchanges
that took place. -/
def Answers (took : BitnobExchange → Prop) (tr : RateTrace) : Prop :=
  ∀ y ∈ tr, ∀ key t answer, y.label = .fetched key t answer →
    ∃ x, took x ∧ answer = provider.getRate lib U key.1 key.2.1 key.2.2 x

/-- The rate bears the labels of its key and a positive number, and its text shows this number. -/
structure Labelled (key : MarketKey) (rate : HanbovaRate) : Prop where
  market : rate.market = U.toUppercase (trim key.1)
  settlementAsset : rate.settlementAsset = U.toUppercase (trim key.2.1)
  quote : rate.quote = U.toUppercase (trim key.2.2)
  base : rate.base = "USD"
  display : rate.display = lib.formatDisplay rate.base rate.quote rate.rate
  positive : isPositive rate.rate = true
  environment : rate.environment = provider.environment
  provider : rate.provider = "bitnob"
  expiresAt : rate.expiresAt = none

/-- A request for the rate was sent, and the reply has quoted it. -/
structure Quoted (took : BitnobExchange → Prop) (rate : HanbovaRate)
    (clientId clientSecret : String)
    (request : BitnobRequest) : Prop where
  body : request.body =
    lib.json ⟨rate.settlementAsset, rate.quote, "1", rate.market⟩
  sent : ∃ x, took x ∧
    provider.request lib clientId clientSecret request.body x = .ok request ∧
      ∃ response, x.reply request = .quoted response ∧ extractedRate response = some rate.rate

/-- All that is behind a rate: it is labelled, it is marked live in production only, and outside the
mock mode it was quoted in reply to a request. -/
structure Backed (took : BitnobExchange → Prop) (key : MarketKey) (rate : HanbovaRate) :
    Prop where
  labelled : provider.Labelled lib U key rate
  live_iff : rate.isLive = true ↔ provider.environment = "production"
  quoted : provider.environment = "mock" ∨ ∃ clientId clientSecret request,
    provider.credentials = .ok (clientId, clientSecret) ∧
      provider.Quoted lib took rate clientId clientSecret request

/-- The request bears its client's signature of its body. -/
def Signed (clientId clientSecret : String) (request : BitnobRequest) : Prop :=
  ∃ (timestamp : UInt64) (nonce : String) (bytes : List UInt8),
    lib.hmac clientSecret s!"{clientId}:{timestamp}:{nonce}:{request.body}" = .ok bytes ∧
      [("X-Auth-Client", clientId), ("X-Auth-Timestamp", toString timestamp),
        ("X-Auth-Nonce", nonce),
        ("X-Auth-Signature", String.ofList (bytes.flatMap Uuid.hexByte))] <:+ request.headers

variable {lib U provider} {vars : Vars} {took : BitnobExchange → Prop} {name s : String}
  {key : MarketKey} {rate : HanbovaRate} {x : BitnobExchange} {reply : BitnobReply}
  {bits : BitVec 64} {request : BitnobRequest} {clientId clientSecret payload : String}

/-! ### Spec lemmas -/

theorem nonBlank_eq_some (h : nonBlank vars name = some s) :
    vars.lookup name = some s ∧ trim s ≠ "" := by
  simpa [nonBlank, Option.filter_eq_some_iff] using h

theorem environment_new (vars : Vars) : (new vars).environment = "production" ↔
    vars.lookup "BITNOB_ENVIRONMENT" = some "production" := by
  unfold new
  cases vars.lookup "BITNOB_ENVIRONMENT" with
  | none =>
    dsimp only [Option.getD_none]
    split_ifs <;> simp
  | some environment => simp

theorem baseUrl_new (h : (new vars).environment = "production") :
    (new vars).baseUrl = "https://api.bitnob.co" := by
  have hurl : (new vars).baseUrl = defaultUrl (new vars).environment := rfl
  rw [hurl, h]
  rfl

/-- In production there is no way around the two credentials. -/
theorem credentials_production (h : provider.environment = "production")
    (hc : provider.credentials = .ok (clientId, clientSecret)) :
    provider.clientId = some clientId ∧ provider.clientSecret = some clientSecret := by
  unfold credentials at hc
  rw [if_pos h] at hc
  split at hc
  · obtain ⟨rfl, rfl⟩ := Prod.mk.inj (Except.ok.inj hc)
    exact ⟨by assumption, by assumption⟩
  · cases hc

theorem readReply_ok (h : readReply reply = .ok bits) :
    ∃ response, reply = .quoted response ∧ extractedRate response = some bits ∧
      isPositive bits = true := by
  cases reply with
  | quoted parsed =>
    simp only [readReply] at h
    split at h
    · rename_i rate hrate
      obtain rfl := Except.ok.inj h
      obtain ⟨hextracted, hpositive⟩ := Option.filter_eq_some_iff.mp hrate
      exact ⟨parsed, rfl, hextracted, hpositive⟩
    · cases h
  | failed e => cases h
  | rejected status errBody => cases h
  | unreadable e => cases h

theorem generateSignature_ok {timestamp : UInt64} {nonce signature : String}
    (h : generateSignature lib clientId clientSecret timestamp nonce payload = .ok signature) :
    ∃ bytes, lib.hmac clientSecret s!"{clientId}:{timestamp}:{nonce}:{payload}" = .ok bytes ∧
      String.ofList (bytes.flatMap Uuid.hexByte) = signature := by
  unfold generateSignature at h
  split at h
  · rename_i bytes hbytes
    exact ⟨bytes, hbytes, Except.ok.inj h⟩
  · cases h

/-- With a secret, the headers end with a signature of the payload. -/
theorem authorization_ok {headers : List (String × String)} (hsecret : clientSecret ≠ "")
    (h : authorization lib clientId clientSecret payload x = .ok headers) :
    ∃ bytes, lib.hmac clientSecret s!"{clientId}:{x.timestamp}:{x.nonceHex}:{payload}" = .ok bytes ∧
      headers = [("X-Auth-Client", clientId), ("X-Auth-Timestamp", toString x.timestamp),
        ("X-Auth-Nonce", x.nonceHex),
        ("X-Auth-Signature", String.ofList (bytes.flatMap Uuid.hexByte))] := by
  unfold authorization at h
  rw [if_neg hsecret] at h
  obtain ⟨signature, hs, h⟩ := Stages.bind_ok.mp h
  obtain ⟨bytes, hmac, rfl⟩ := generateSignature_ok hs
  exact ⟨bytes, hmac, (Except.ok.inj h).symm⟩

theorem request_ok (h : provider.request lib clientId clientSecret payload x = .ok request) :
    request.url = s!"{provider.baseUrl}/api/v1/payouts/quotes" ∧ request.body = payload ∧
      (clientSecret ≠ "" → Signed lib clientId clientSecret request) := by
  unfold BitnobRateProvider.request at h
  obtain ⟨headers, ha, h⟩ := Stages.bind_ok.mp h
  obtain rfl := Except.ok.inj h
  refine ⟨rfl, rfl, fun hsecret => ?_⟩
  obtain ⟨bytes, hmac, rfl⟩ := authorization_ok hsecret ha
  exact ⟨_, _, bytes, hmac, List.suffix_append _ _⟩

theorem mockRate_positive (asset currency : String) :
    isPositive (mockRate asset currency) = true := by
  unfold mockRate
  split <;> rfl

theorem Labelled.of_new {environment : String} {isLive : Bool}
    (henvironment : environment = provider.environment) (hpositive : isPositive bits = true) :
    provider.Labelled lib U key (.new lib (U.toUppercase (trim key.1)) "USD"
      (U.toUppercase (trim key.2.2)) (U.toUppercase (trim key.2.1)) bits "bitnob" environment isLive
      false x.readAt none) where
  market := rfl
  settlementAsset := rfl
  quote := rfl
  base := rfl
  display := rfl
  positive := hpositive
  environment := henvironment
  provider := rfl
  expiresAt := rfl

theorem getRate_ok (h : provider.getRate lib U key.1 key.2.1 key.2.2 x = .ok rate) :
    provider.Backed lib U (· = x) key rate := by
  unfold getRate at h
  split_ifs at h with hmock
  · obtain rfl := Except.ok.inj h
    have hlive : (false = true) ↔ provider.environment = "production" := by simp [hmock]
    exact ⟨.of_new hmock.symm (mockRate_positive _ _), hlive, .inl hmock⟩
  · obtain ⟨⟨clientId, clientSecret⟩, hc, h⟩ := Stages.bind_ok.mp h
    obtain ⟨request, hr, h⟩ := Stages.bind_ok.mp h
    obtain ⟨bits, hb, h⟩ := Stages.bind_ok.mp h
    obtain rfl := Except.ok.inj h
    obtain ⟨response, hreply, hextracted, hpositive⟩ := readReply_ok hb
    have hbody := (request_ok hr).2.1
    refine ⟨.of_new rfl hpositive, beq_iff_eq,
      .inr ⟨clientId, clientSecret, request, hc, hbody, ?_⟩⟩
    refine ⟨x, rfl, ?_, response, hreply, hextracted⟩
    rw [hbody]
    exact hr

theorem Backed.mono {took' : BitnobExchange → Prop} (h : provider.Backed lib U took key rate)
    (htook : ∀ x, took x → took' x) : provider.Backed lib U took' key rate := by
  refine ⟨h.labelled, h.live_iff, h.quoted.imp_right ?_⟩
  rintro ⟨clientId, clientSecret, request, hc, hbody, x, hx, hsent⟩
  exact ⟨clientId, clientSecret, request, hc, hbody, x, htook x hx, hsent⟩

/-- Whether a rate is marked as stale says nothing about where it comes from. -/
theorem Backed.withStale (h : provider.Backed lib U took key rate) (stale : Bool) :
    provider.Backed lib U took key { rate with isStale := stale } := by
  obtain ⟨hl, hlive, hq⟩ := h
  refine ⟨⟨hl.market, hl.settlementAsset, hl.quote, hl.base, hl.display, hl.positive,
    hl.environment, hl.provider, hl.expiresAt⟩, hlive, hq.imp_right ?_⟩
  rintro ⟨clientId, clientSecret, request, hc, hbody, hsent⟩
  exact ⟨clientId, clientSecret, request, hc, hbody, hsent⟩

end BitnobRateProvider

/-! ### Runs of the rate service over the provider -/

section
variable {U : UpperTable} {service : HanbovaRateService} {tr : RateTrace} {s p q : RateState}
  {cache cache' : RateCache} {c : RateCall} {next : Option RateCall} {l : RateEvent}
  {key : MarketKey} {t : DateTime} {rate : HanbovaRate}

/-- What holds of every rate that is fetched, stale or not, holds of every rate that is served. -/
theorem served_of_fetched {P : MarketKey → HanbovaRate → Prop}
    (hstale : ∀ key rate stale, P key rate → P key { rate with isStale := stale })
    (h : (rateSystem U service).Trace tr s)
    (hfetched : ∀ key t rate, Fetched U tr key t rate → P key rate)
    {x : Transition RateState RateEvent} (hx : x ∈ tr)
    (hserved : (key, t, rate) ∈ x.label.served) :
    P key rate := by
  obtain ⟨tr₁, hp, hpre, hl, -⟩ := h.upTo hx
  obtain ⟨hcache, hcalls⟩ := sourced_of_trace hpre
  generalize x.pre = p, x.label = l, x.post = q at hl hcache hcalls hserved
  cases hl with
  | started hstart => cases hstart <;> cases hserved
  | moved xs ys hstep =>
    have hc := hcalls _ (List.mem_append_right _ List.mem_cons_self)
    obtain ⟨t', v, hv, hrate⟩ := hstep.served_fetched hcache hc hserved
    rw [hrate]
    exact hstale _ _ _ (hfetched _ _ _ (hv.mono ((List.prefix_append _ _).trans hp)))

variable {lib : BitnobLibrary} {provider : BitnobRateProvider} {took : BitnobExchange → Prop}
  {vars : Vars}

namespace BitnobRateProvider

theorem backed_of_served (h : (rateSystem U service).Trace tr s)
    (hanswers : provider.Answers lib U took tr) {x : Transition RateState RateEvent} (hx : x ∈ tr)
    (hserved : (key, t, rate) ∈ x.label.served) : provider.Backed lib U took key rate := by
  refine served_of_fetched (P := provider.Backed lib U took)
    (fun _ _ stale hb => hb.withStale stale) h ?_ hx hserved
  rintro key t rate ⟨-, y, hy, hlabel⟩
  obtain ⟨z, hz, hanswer⟩ := hanswers y hy key t _ hlabel
  exact (getRate_ok hanswer.symm).mono fun z' hz' => hz' ▸ hz

/-- A live rate was quoted by the production endpoint, in reply to a request for that rate which
bears the signature of the configured client. -/
theorem Backed.live (h : (new vars).Backed lib U took key rate) (hlive : rate.isLive = true) :
    ∃ clientId clientSecret request, vars.lookup "BITNOB_CLIENT_ID" = some clientId ∧
      vars.lookup "BITNOB_CLIENT_SECRET" = some clientSecret ∧
        request.url = "https://api.bitnob.co/api/v1/payouts/quotes" ∧
          Signed lib clientId clientSecret request ∧
            (new vars).Quoted lib took rate clientId clientSecret request := by
  have hproduction := h.live_iff.mp hlive
  rcases h.quoted with hmock | ⟨clientId, clientSecret, request, hc, hq⟩
  · rw [hproduction] at hmock
    exact absurd hmock (by decide)
  · obtain ⟨hid, hsecret⟩ := credentials_production hproduction hc
    obtain ⟨hid, -⟩ := nonBlank_eq_some hid
    obtain ⟨hsecret, hblank⟩ := nonBlank_eq_some hsecret
    obtain ⟨x, -, hrequest, -⟩ := hq.sent
    obtain ⟨hurl, -, hsigned⟩ := request_ok hrequest
    rw [baseUrl_new hproduction] at hurl
    refine ⟨clientId, clientSecret, request, hid, hsecret, hurl, hsigned ?_, hq⟩
    rintro rfl
    exact hblank rfl

end BitnobRateProvider

/-- Whatever calls run side by side, a rate that the server returns bears the labels of its key and
was quoted, outside the mock mode, in reply to a request for it; and one that is marked live was
quoted by the production endpoint to the configured client. -/
theorem served_rates_are_quoted (lib : BitnobLibrary) (U : UpperTable)
    (service : HanbovaRateService)
    (vars : Vars) (took : BitnobExchange → Prop) (tr : RateTrace) (s : RateState)
    (h : (rateSystem U service).Trace tr s)
    (hanswers : (BitnobRateProvider.new vars).Answers lib U took tr)
    (x : Transition RateState RateEvent) (hx : x ∈ tr) (key : MarketKey) (t : DateTime)
    (rate : HanbovaRate) (hserved : (key, t, rate) ∈ x.label.served) :
    (BitnobRateProvider.new vars).Backed lib U took key rate ∧
      (rate.isLive = true ↔ vars.lookup "BITNOB_ENVIRONMENT" = some "production") ∧
        (rate.isLive = true → ∃ clientId clientSecret request,
          vars.lookup "BITNOB_CLIENT_ID" = some clientId ∧
            vars.lookup "BITNOB_CLIENT_SECRET" = some clientSecret ∧
              request.url = "https://api.bitnob.co/api/v1/payouts/quotes" ∧
                BitnobRateProvider.Signed lib clientId clientSecret request ∧
                  (BitnobRateProvider.new vars).Quoted lib took rate clientId clientSecret
                    request) := by
  have hbacked := BitnobRateProvider.backed_of_served h hanswers hx hserved
  refine ⟨hbacked, hbacked.live_iff.trans (BitnobRateProvider.environment_new vars), ?_⟩
  exact hbacked.live

end

def sampleBitnobVars : Vars := AppConfig.collectVars [("BITNOB_ENVIRONMENT", "production"),
  ("BITNOB_CLIENT_ID", "client"), ("BITNOB_CLIENT_SECRET", "secret")]

/-- Payloads and displayed texts do not matter here. -/
def sampleBitnobLibrary : BitnobLibrary := ⟨fun _ => "{}", fun _ _ => .ok [7], fun _ _ _ => ""⟩

/-- The provider quotes 1365. -/
def sampleExchange : BitnobExchange :=
  ⟨.epoch, Vector.replicate 16 0,
    fun _ => .quoted ⟨some ⟨some 0x4095540000000000, none⟩, none⟩, .epoch⟩

def sampleLiveRate : HanbovaRate :=
  { market := "NG", base := "USD", quote := "NGN", display := "", settlementAsset := "USDT"
    rate := 0x4095540000000000#64, provider := "bitnob", environment := "production"
    isLive := true, isStale := false, updatedAt := .epoch, expiresAt := none }

theorem getRate_sampleRateKey : (BitnobRateProvider.new sampleBitnobVars).getRate
    sampleBitnobLibrary .ascii sampleRateKey.1 sampleRateKey.2.1 sampleRateKey.2.2 sampleExchange =
      .ok sampleLiveRate := rfl

/-- A call fetches its rate and returns it. -/
theorem served_rates_are_quoted_sample : ∃ tr s, (rateSystem .ascii sampleService).Trace tr s ∧
    (BitnobRateProvider.new sampleBitnobVars).Backed sampleBitnobLibrary .ascii (· = sampleExchange)
      sampleRateKey sampleLiveRate ∧
    ∃ request, request.url = "https://api.bitnob.co/api/v1/payouts/quotes" ∧
      BitnobRateProvider.Signed sampleBitnobLibrary "client" "secret" request := by
  have h₁ := trace_sampleRates.snoc (.started (.started " ng" "usdt" "ngn" .epoch))
  have h₂ := h₁.snoc (.moved [] [] (.missed (missed_sampleRates _)))
  have h₃ := h₂.snoc (.moved [] [] (.fetched _ _ _ sampleLiveRate))
  have h₄ := h₃.snoc (.moved [] [] (.stored _ _ _ _))
  obtain ⟨hbacked, -, hlive⟩ := served_rates_are_quoted sampleBitnobLibrary .ascii sampleService
    sampleBitnobVars (· = sampleExchange) _ _ h₄
    (by
      intro y hy key t answer hlabel
      simp only [List.nil_append, List.cons_append, List.mem_cons, List.not_mem_nil, or_false] at hy
      rcases hy with rfl | rfl | rfl | rfl
      · cases hlabel
      · cases hlabel
      · cases hlabel
        exact ⟨sampleExchange, rfl, getRate_sampleRateKey.symm⟩
      · cases hlabel)
    _ (List.mem_append_right _ (List.mem_singleton_self _)) sampleRateKey .epoch sampleLiveRate
    (List.mem_singleton_self _)
  obtain ⟨clientId, clientSecret, request, hid, hsecret, hurl, hsigned, -⟩ := hlive rfl
  obtain rfl : "client" = clientId := Option.some.inj hid
  obtain rfl : "secret" = clientSecret := Option.some.inj hsecret
  exact ⟨_, _, h₄, hbacked, request, hurl, hsigned⟩

/-! ### The routes -/

structure MarketRateEntry where
  market : String
  currency : String
  available : Bool
  rate : Option HanbovaRate
  deriving DecidableEq

/-- The body of `get_all_hanbova_rates`. -/
def getAllHanbovaRates (rates : List (Option HanbovaRate)) : List MarketRateEntry :=
  (rates.zip allMarkets).map fun (maybeRate, m) =>
    ⟨m.1, m.2.2, maybeRate.isSome, maybeRate⟩

section
variable {U : UpperTable} {service : HanbovaRateService} {cache cache' : RateCache} {c : RateCall}
  {next : Option RateCall} {now : DateTime} {rates : List (Option HanbovaRate)}

theorem RateCall.Step.allAnswered_rates
    (h : RateCall.Step U service cache c (.allAnswered now rates) cache' next) :
    rates = service.listRates U cache now := by
  cases h
  rfl

/-- The entries are those of the known markets, each with the rate that is listed for it. -/
theorem getAllHanbovaRates_listRates (U : UpperTable) (service : HanbovaRateService)
    (cache : RateCache) (now : DateTime) :
    getAllHanbovaRates (service.listRates U cache now) = allMarkets.map fun m =>
      ⟨m.1, m.2.2, (service.listedRate U cache now m).isSome,
        service.listedRate U cache now m⟩ := by
  rw [getAllHanbovaRates, HanbovaRateService.listRates, ← List.map_prod_right_eq_zip,
    List.map_map]
  rfl

theorem served_of_listedRate {m : MarketKey} {rate : HanbovaRate} (hm : m ∈ allMarkets)
    (hrate : service.listedRate U cache now m = some rate) :
    (m, now, rate) ∈ (RateEvent.allAnswered now (service.listRates U cache now)).served := by
  simp only [RateEvent.served, HanbovaRateService.listRates, ← List.map_prod_left_eq_zip,
    List.mem_filterMap, List.mem_map]
  exact ⟨_, ⟨m, hm, rfl⟩, by rw [hrate]; rfl⟩

end

/-- Whatever other calls run beside it, a listing of all rates has one entry for each known market,
in their order, and a rate in an entry is one of that very market and currency. -/
theorem listing_is_labelled (lib : BitnobLibrary) (U : UpperTable) (service : HanbovaRateService)
    (vars : Vars) (took : BitnobExchange → Prop) (tr : RateTrace) (s : RateState)
    (h : (rateSystem U service).Trace tr s)
    (hanswers : (BitnobRateProvider.new vars).Answers lib U took tr)
    (x : Transition RateState RateEvent) (hx : x ∈ tr) (now : DateTime)
    (rates : List (Option HanbovaRate)) (hlabel : x.label = .allAnswered now rates) :
    (getAllHanbovaRates rates).map (fun e => (e.market, e.currency)) =
        allMarkets.map (fun m => (m.1, m.2.2)) ∧
      ∀ e ∈ getAllHanbovaRates rates, e.available = e.rate.isSome ∧ ∀ rate ∈ e.rate,
        rate.market = e.market ∧ rate.quote = e.currency ∧ rate.settlementAsset = "USDT" ∧
          isPositive rate.rate = true ∧
            (rate.isLive = true ↔ vars.lookup "BITNOB_ENVIRONMENT" = some "production") := by
  obtain ⟨cache, rfl⟩ : ∃ cache, rates = service.listRates U cache now := by
    obtain ⟨-, -, -, hl, -⟩ := h.upTo hx
    rw [hlabel] at hl
    generalize x.pre = p, x.post = q at hl
    cases hl with
    | started hstart => cases hstart
    | moved xs ys hstep => exact ⟨_, hstep.allAnswered_rates⟩
  rw [getAllHanbovaRates_listRates]
  constructor
  · rw [List.map_map]
    rfl
  intro e he
  obtain ⟨m, hm, rfl⟩ := List.mem_map.mp he
  refine ⟨rfl, fun rate hrate => ?_⟩
  have hserved := served_of_listedRate hm hrate
  rw [← hlabel] at hserved
  have hbacked := BitnobRateProvider.backed_of_served h hanswers hx hserved
  -- The provider makes of a known market what the service makes of it: nothing is changed.
  have hkey := HanbovaRateService.requestKey_of_mem U hm
  have husdt : m.2.1 = "USDT" := by
    revert hm
    unfold allMarkets
    simp +contextual [or_imp, Prod.ext_iff]
  refine ⟨hbacked.labelled.market.trans (congrArg (·.1) hkey),
    hbacked.labelled.quote.trans (congrArg (·.2.2) hkey),
    (hbacked.labelled.settlementAsset.trans (congrArg (·.2.1) hkey)).trans husdt,
    hbacked.labelled.positive, hbacked.live_iff.trans (BitnobRateProvider.environment_new vars)⟩

/-- A call that has only fetches left can have them answered one by one. -/
theorem trace_fetchAll {U : UpperTable} {service : HanbovaRateService} {cache : RateCache}
    {now : DateTime} {tr : RateTrace} (answer : MarketKey → ProviderResult) (ms : List MarketKey)
    (done : List (MarketKey × ProviderResult))
    (h : (rateSystem U service).Trace tr ⟨cache, [.fetchingAll now
      (done.map (fun p => (p.1, some p.2)) ++ ms.map fun m => (m, none))]⟩) :
    ∃ tr' : RateTrace, (rateSystem U service).Trace (tr ++ tr') ⟨cache, [.fetchingAll now
        ((done ++ ms.map fun m => (m, answer m)).map fun p => (p.1, some p.2))]⟩ ∧
      ∀ y ∈ tr', ∀ key t a, y.label = .fetched key t a → a = answer key := by
  induction ms generalizing tr done with
  | nil => exact ⟨[], by simpa using h, by simp⟩
  | cons m ms ih =>
    have hstep := h.snoc (.moved [] [] (.allFetched cache now (answer m) m _ _))
    obtain ⟨tr', ht, hall⟩ := ih (done ++ [(m, answer m)]) (by simpa using hstep)
    refine ⟨_ :: tr', by simpa using ht, fun y hy key t a hlabel => ?_⟩
    rcases List.mem_cons.mp hy with rfl | hy
    · cases hlabel
      rfl
    · exact hall y hy key t a hlabel

/-- What a provider without any configuration answers for a market. -/
def sampleMockAnswer (m : MarketKey) : ProviderResult :=
  (BitnobRateProvider.new ∅).getRate sampleBitnobLibrary .ascii m.1 m.2.1 m.2.2 sampleExchange

def sampleMockCache : RateCache :=
  HanbovaRateService.storeAll .ascii ∅ .epoch (allMarkets.map fun m => (m, sampleMockAnswer m))

/-- A server without any configuration lists mock rates, among them one for Kenya. -/
theorem listing_is_labelled_sample : ∃ tr s x rates rate,
    (rateSystem .ascii sampleService).Trace tr s ∧ x ∈ tr ∧
    x.label = .allAnswered .epoch rates ∧
    (getAllHanbovaRates rates).map (fun e => (e.market, e.currency)) =
      [("NG", "NGN"), ("KE", "KES"), ("GH", "GHS"), ("ZA", "ZAR"), ("UG", "UGX"), ("RW", "RWF"),
        ("TZ", "TZS"), ("US", "USD")] ∧
    ⟨"KE", "KES", true, some rate⟩ ∈ getAllHanbovaRates rates ∧
    rate.market = "KE" ∧ rate.quote = "KES" ∧ rate.isLive = false := by
  have h₁ := trace_sampleRates.snoc (.started (.allStarted .epoch))
  have h₂ := h₁.snoc (.moved [] [] (.allRead ∅ .epoch))
  obtain ⟨tr, h₃, hanswers⟩ := trace_fetchAll sampleMockAnswer
    (sampleService.marketsToFetch .ascii ∅ .epoch) [] h₂
  have h₄ := h₃.snoc (.moved [] [] (.allStored _ _ _))
  have h₅ := h₄.snoc (.moved [] [] (.allAnswered _ _))
  obtain ⟨hmarkets, hrates⟩ := listing_is_labelled sampleBitnobLibrary .ascii sampleService ∅
    (· = sampleExchange) _ _ h₅
    (by
      intro y hy key t answer hlabel
      refine ⟨sampleExchange, rfl, ?_⟩
      simp only [List.append_assoc, List.nil_append, List.cons_append, List.mem_cons,
        List.mem_append, List.not_mem_nil, or_false] at hy
      rcases hy with rfl | rfl | hy | rfl | rfl
      · cases hlabel
      · cases hlabel
      · exact hanswers y hy key t answer hlabel
      · cases hlabel
      · cases hlabel)
    _ (List.mem_append_right _ (List.mem_singleton_self _)) _ _ rfl
  have hkenya : ∃ rate, (⟨"KE", "KES", true, some rate⟩ : MarketRateEntry) ∈
      getAllHanbovaRates (sampleService.listRates .ascii sampleMockCache .epoch) :=
    ⟨(sampleMockAnswer ("KE", "USDT", "KES")).toOption.getD sampleRate, by decide +kernel⟩
  obtain ⟨rate, hentry⟩ := hkenya
  obtain ⟨-, hrate⟩ := hrates _ hentry
  obtain ⟨hmarket, hquote, -, -, hlive⟩ := hrate rate rfl
  refine ⟨_, _, _, _, rate, h₅, List.mem_append_right _ (List.mem_singleton_self _), rfl,
    hmarkets,
    hentry, hmarket, hquote, Bool.eq_false_iff.mpr fun ht => ?_⟩
  cases hlive.mp ht

end Hanbova
