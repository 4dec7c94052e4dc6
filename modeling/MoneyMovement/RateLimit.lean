/-
  MoneyMovement/RateLimit.lean
  ============================
  **Throttling by caller** — `rate_limit`, `client_ip`, `RedisRateLimiter` and the
  proxy in front of them.

  The counter of an unauthenticated caller is keyed by the first element of
  `X-Forwarded-For`.  The proxy appends the address it sees to whatever the
  client sent, so the first element is the client's own choice whenever the
  client sends the header.  The bound of the fixed window holds for a client
  whose requests all show the same first element, and for no longer.
-/
import MoneyMovement.FixedWindow
import MoneyMovement.Provenance

namespace MoneyMovement

open FixedWindow

/-! ### The limiter (`platform_/web/rate_limit.py`) -/

structure RateLimitPolicy where
  name : String
  limit : Nat
  windowSeconds : Nat
  failClosed : Bool := false
deriving DecidableEq, Repr

def loginPolicy : RateLimitPolicy := ⟨"login", 5, 60, true⟩

/-- `POLICIES`. -/
def POLICIES : List RateLimitPolicy :=
  [loginPolicy, ⟨"register", 5, 300, true⟩, ⟨"transfer", 10, 60, true⟩,
    ⟨"money_request", 20, 60, false⟩, ⟨"lookup", 60, 60, false⟩, ⟨"read", 120, 60, false⟩]

/-- `POLICIES.get(name)`. -/
def policyOf (name : String) : Option RateLimitPolicy := POLICIES.find? fun p => decide (p.name = name)

structure RateLimitedError where
  retryAfterSeconds : Nat := 60
  message : String := "Too many requests. Please slow down."
  details : Payload := []
deriving DecidableEq, Repr

/-- The counters in Redis. -/
abbrev Counters := String → Option Window

/-- `_LUA_FIXED_WINDOW`: the count after the hit, the seconds the key has left (rounded as `TTL`
    rounds them), and the counters. -/
def luaFixedWindow (counters : Counters) (key : String) (windowSeconds : Nat) (now : Time) :
    (Nat × Nat) × Counters :=
  let w := hit (Time.seconds windowSeconds) now (counters key)
  ((w.count, (w.expires - now + Time.seconds 1 / 2) / Time.seconds 1),
    Function.update counters key (some w))

namespace RedisRateLimiter

def keyOf (policy : RateLimitPolicy) (identifier : String) : String :=
  "ratelimit:" ++ policy.name ++ ":" ++ identifier

/-- `check`; `reachable` is whether the call to Redis goes through. -/
def check (policyName identifier : String) (reachable : Bool) (now : Time) (counters : Counters) :
    Except RateLimitedError Unit × Counters :=
  match policyOf policyName with
  | none => (.ok (), counters)
  | some policy =>
    if reachable then
      let ((current, ttl), counters) :=
        luaFixedWindow counters (keyOf policy identifier) policy.windowSeconds now
      if policy.limit < current then
        (.error { retryAfterSeconds := max ttl 1,
                  details := [("limit", .int policy.limit),
                    ("windowSeconds", .int policy.windowSeconds)] }, counters)
      else (.ok (), counters)
    else if policy.failClosed then
      (.error { retryAfterSeconds := 5,
                message := "Rate limiting is temporarily unavailable. Please retry shortly." },
        counters)
    else (.ok (), counters)

end RedisRateLimiter

/-! ### Who is calling (`apps/api/dependencies.py`) -/

/-- `str.isspace` of a character. -/
def isPySpace (ch : Char) : Bool :=
  let n := ch.toNat
  (9 ≤ n && n ≤ 13) || (0x1C ≤ n && n ≤ 0x20) || n == 0x85 || n == 0xA0 || n == 0x1680 ||
    (0x2000 ≤ n && n ≤ 0x200A) || n == 0x2028 || n == 0x2029 || n == 0x202F || n == 0x205F ||
    n == 0x3000

/-- `text.strip()`. -/
def strip (text : List Char) : List Char :=
  ((text.dropWhile isPySpace).reverse.dropWhile isPySpace).reverse

/-- `text.split(",")[0].strip()`. -/
def firstElement (text : String) : String :=
  String.ofList (strip (text.toList.takeWhile fun ch => ch != ','))

/-- A request as the API receives it. -/
structure ApiRequest where
  xForwardedFor : Option String
  authorization : Option String
  /-- `request.client.host`: whoever opened the connection -/
  clientHost : Option String

def clientIp (request : ApiRequest) : String :=
  match request.xForwardedFor with
  | some forwarded => if forwarded ≠ "" then firstElement forwarded else request.clientHost.getD "unknown"
  | none => request.clientHost.getD "unknown"

/-- `authorization.lower().startswith("bearer ")`. -/
def isBearer (authorization : String) : Bool :=
  (authorization.toList.map Char.toLower).take 7 = "bearer ".toList

/-- `authorization[7:].strip()`. -/
def bearerToken (authorization : String) : String :=
  String.ofList (strip (authorization.toList.drop 7))

/-- The identifier of the dependency of `rate_limit`.  `verify` is `verify_access_token` at the
    time of the request: the user of a valid token. -/
def identifierOf (verify : String → Option Ulid) (request : ApiRequest) : String :=
  let authorization := request.authorization.getD ""
  if isBearer authorization then
    match verify (bearerToken authorization) with
    | some userId => "user:" ++ userId.text
    | none => "ip:" ++ clientIp request
  else "ip:" ++ clientIp request

/-! ### Behind the proxy (`nginx.conf`, `location /api/`) -/

/-- A request as a client sends it: when it arrives, from which address, to an endpoint of which
    policy, and the two headers the client chooses. -/
structure ClientRequest where
  arrival : Time
  address : String
  policyName : String
  xForwardedFor : Option String
  authorization : Option String
  address_nonempty : address ≠ "" := by decide

namespace ClientRequest

/-- `$proxy_add_x_forwarded_for`. -/
def proxyAddXForwardedFor (r : ClientRequest) : String :=
  match r.xForwardedFor with
  | none => r.address
  | some own => own ++ ", " ++ r.address

/-- The request the proxy passes on; the connection is the proxy's own. -/
def proxied (proxy : String) (r : ClientRequest) : ApiRequest where
  xForwardedFor := some r.proxyAddXForwardedFor
  authorization := r.authorization
  clientHost := some proxy

/-- What the client's headers make of its address: the first element that the API will see. -/
def firstForwarded (r : ClientRequest) : String := firstElement r.proxyAddXForwardedFor

/-- No valid token comes with the request. -/
def Anonymous (verify : Time → String → Option Ulid) (r : ClientRequest) : Prop :=
  isBearer (r.authorization.getD "") = true →
    verify r.arrival (bearerToken (r.authorization.getD "")) = none

end ClientRequest

section Throttle

variable (verify : Time → String → Option Ulid) (proxy : String)

/-- The dependency `rate_limit(policy_name)`, with Redis available. -/
def rateLimit (counters : Counters) (r : ClientRequest) : Except RateLimitedError Unit × Counters :=
  RedisRateLimiter.check r.policyName (identifierOf (verify r.arrival) (r.proxied proxy)) true
    r.arrival counters

/-- The requests that pass the check, of a sequence of them. -/
def throttle (counters : Counters) : List ClientRequest → List ClientRequest
  | [] => []
  | r :: rest =>
    match rateLimit verify proxy counters r with
    | (.ok _, counters) => r :: throttle counters rest
    | (.error _, counters) => throttle counters rest

/-- A login of the client in the interval of one window from `t`. -/
def LoginDuring (client : String) (t : Time) (r : ClientRequest) : Prop :=
  r.address = client ∧ r.policyName = loginPolicy.name ∧ t ≤ r.arrival ∧
    r.arrival < t + Time.seconds loginPolicy.windowSeconds

instance (client : String) (t : Time) (r : ClientRequest) : Decidable (LoginDuring client t r) :=
  inferInstanceAs (Decidable (_ ∧ _))

variable {verify proxy}

theorem ClientRequest.proxyAddXForwardedFor_ne (r : ClientRequest) :
    r.proxyAddXForwardedFor ≠ "" := by
  unfold proxyAddXForwardedFor
  split
  · exact r.address_nonempty
  · intro h
    have := congrArg String.toList h
    simp at this

/-- The identifier of a request without a valid token. -/
theorem identifierOf_anonymous {r : ClientRequest} (h : r.Anonymous verify) :
    identifierOf (verify r.arrival) (r.proxied proxy) = "ip:" ++ r.firstForwarded := by
  have hip : clientIp (r.proxied proxy) = r.firstForwarded := by
    have hne := r.proxyAddXForwardedFor_ne
    rw [clientIp]
    exact if_pos hne
  unfold identifierOf
  rw [hip]
  dsimp only
  by_cases hb : isBearer ((r.proxied proxy).authorization.getD "") = true
  · have hnone : verify r.arrival (bearerToken ((r.proxied proxy).authorization.getD "")) = none :=
      h hb
    rw [if_pos hb, hnone]
  · rw [if_neg hb]

/-! ### As counters of a fixed window -/

/-- Requests to endpoints whose policy exists, as traffic on their keys. -/
def traffic (verify : Time → String → Option Ulid) (proxy : String) :
    Traffic ClientRequest String where
  key r := RedisRateLimiter.keyOf ((policyOf r.policyName).getD loginPolicy)
    (identifierOf (verify r.arrival) (r.proxied proxy))
  time r := r.arrival
  limit r := ((policyOf r.policyName).getD loginPolicy).limit
  length r := Time.seconds ((policyOf r.policyName).getD loginPolicy).windowSeconds

def Limited (r : ClientRequest) : Bool := (policyOf r.policyName).isSome

/-- One check, as a hit on the key of the request. -/
theorem rateLimit_limited (verify : Time → String → Option Ulid) (proxy : String)
    (counters : Counters) {r : ClientRequest} {policy : RateLimitPolicy}
    (hp : policyOf r.policyName = some policy) :
    (((traffic verify proxy).window counters r).count ≤ (traffic verify proxy).limit r →
      rateLimit verify proxy counters r = (.ok (), (traffic verify proxy).after counters r)) ∧
    (¬((traffic verify proxy).window counters r).count ≤ (traffic verify proxy).limit r →
      ∃ e, rateLimit verify proxy counters r =
        (.error e, (traffic verify proxy).after counters r)) := by
  have hwindow : (traffic verify proxy).window counters r =
      hit (Time.seconds policy.windowSeconds) r.arrival
        (counters (RedisRateLimiter.keyOf policy
          (identifierOf (verify r.arrival) (r.proxied proxy)))) := by
    simp [Traffic.window, traffic, hp]
  have hafter : (traffic verify proxy).after counters r =
      Function.update counters
        (RedisRateLimiter.keyOf policy (identifierOf (verify r.arrival) (r.proxied proxy)))
        (some ((traffic verify proxy).window counters r)) := by
    simp [Traffic.after, traffic, hp]
  have hlimit : (traffic verify proxy).limit r = policy.limit := by simp [traffic, hp]
  simp only [rateLimit, RedisRateLimiter.check, hp, luaFixedWindow, if_true]
  rw [hafter, hwindow, hlimit]
  constructor
  · intro hle
    exact if_neg (Nat.not_lt.2 hle)
  · intro hgt
    exact ⟨_, if_pos (Nat.lt_of_not_le hgt)⟩

/-- The check passes what the fixed window passes. -/
theorem throttle_eq_passed (counters : Counters) (arrivals : List ClientRequest) :
    (throttle verify proxy counters arrivals).filter Limited =
      (traffic verify proxy).passed counters (arrivals.filter Limited) := by
  induction arrivals generalizing counters with
  | nil => rfl
  | cons r rest ih =>
    cases hp : policyOf r.policyName with
    | none =>
      have hunlimited : ¬Limited r = true := by simp [Limited, hp]
      have hpass : rateLimit verify proxy counters r = (.ok (), counters) := by
        simp [rateLimit, RedisRateLimiter.check, hp]
      rw [throttle, hpass]
      dsimp only
      rw [List.filter_cons_of_neg hunlimited, List.filter_cons_of_neg hunlimited, ih]
    | some policy =>
      have hlimited : Limited r = true := by simp [Limited, hp]
      obtain ⟨hok, herror⟩ := rateLimit_limited verify proxy counters hp
      rw [List.filter_cons_of_pos hlimited, Traffic.passed, throttle]
      by_cases hle : ((traffic verify proxy).window counters r).count ≤
          (traffic verify proxy).limit r
      · rw [hok hle, if_pos hle]
        dsimp only
        rw [List.filter_cons_of_pos hlimited, ih]
      · obtain ⟨e, he⟩ := herror hle
        rw [he, if_neg hle]
        exact ih _

/-! ### The bound -/

/-- A policy's name, read off its key. -/
theorem keyOf_login {policy : RateLimitPolicy} (hmem : policy ∈ POLICIES) {x y : String}
    (h : RedisRateLimiter.keyOf policy x = RedisRateLimiter.keyOf loginPolicy y) :
    policy = loginPolicy := by
  have hhead : (RedisRateLimiter.keyOf policy x).toList.take 16 = "ratelimit:login:".toList := by
    rw [h]
    simp [RedisRateLimiter.keyOf, loginPolicy]
  simp only [POLICIES, List.mem_cons, List.not_mem_nil, or_false] at hmem
  rcases hmem with rfl | rfl | rfl | rfl | rfl | rfl
  · rfl
  all_goals
    exfalso
    simp [RedisRateLimiter.keyOf] at hhead

theorem policyOf_mem {name : String} {policy : RateLimitPolicy} (h : policyOf name = some policy) :
    policy ∈ POLICIES :=
  List.mem_of_find?_eq_some h

theorem policyOf_login : policyOf loginPolicy.name = some loginPolicy := by
  decide

theorem LoginDuring.limited {client : String} {t : Time} {r : ClientRequest}
    (h : LoginDuring client t r) : Limited r = true := by
  rw [Limited, h.2.1, policyOf_login]
  rfl

theorem mem_of_mem_throttle {counters : Counters} {arrivals : List ClientRequest}
    {r : ClientRequest} (h : r ∈ throttle verify proxy counters arrivals) : r ∈ arrivals := by
  induction arrivals generalizing counters with
  | nil => exact h
  | cons a rest ih =>
    rw [throttle] at h
    split at h
    · rcases List.mem_cons.1 h with rfl | h
      · exact List.mem_cons_self
      · exact List.mem_cons_of_mem _ (ih h)
    · exact List.mem_cons_of_mem _ (ih h)

end Throttle

/-- In any traffic, a client whose logins come without a valid token and all show the same first
    forwarded element gets at most twice the limit of them through in the time of one window. -/
theorem login_throttled_of_same_forwarded (verify : Time → String → Option Ulid) (proxy : String)
    (counters : Counters) (arrivals : List ClientRequest) (client first : String)
    (hsorted : arrivals.Pairwise fun a b => a.arrival ≤ b.arrival)
    (hanonymous : ∀ r ∈ arrivals, r.address = client → r.policyName = loginPolicy.name →
      r.Anonymous verify)
    (hfirst : ∀ r ∈ arrivals, r.address = client → r.policyName = loginPolicy.name →
      r.firstForwarded = first) (t : Time) :
    ((throttle verify proxy counters arrivals).countP fun r => decide (LoginDuring client t r)) ≤
      2 * loginPolicy.limit := by
  let k := RedisRateLimiter.keyOf loginPolicy ("ip:" ++ first)
  have huniform : (traffic verify proxy).Uniform k loginPolicy.limit
      (Time.seconds loginPolicy.windowSeconds) (arrivals.filter Limited) := by
    intro r hr hkey
    obtain ⟨policy, hp⟩ := Option.isSome_iff_exists.1 (List.mem_filter.1 hr).2
    have hown : (traffic verify proxy).key r =
        RedisRateLimiter.keyOf policy (identifierOf (verify r.arrival) (r.proxied proxy)) := by
      simp [traffic, hp]
    have hlogin : policy = loginPolicy := keyOf_login (policyOf_mem hp) (hown.symm.trans hkey)
    subst hlogin
    simp [traffic, hp]
  have hbound : (traffic verify proxy).passes k t (Time.seconds loginPolicy.windowSeconds) counters
      (arrivals.filter Limited) ≤ 2 * loginPolicy.limit :=
    Traffic.passes_le huniform (hsorted.sublist List.filter_sublist)
  rw [Traffic.passes, ← throttle_eq_passed] at hbound
  refine le_trans ?_ hbound
  rw [List.countP_filter]
  refine List.countP_mono_left ?_
  intro r hr hduring
  have hlogin : LoginDuring client t r := of_decide_eq_true hduring
  have hlimited := hlogin.limited
  obtain ⟨haddress, hpolicy, hfrom, hto⟩ := hlogin
  have hmem := mem_of_mem_throttle hr
  have hkey : (traffic verify proxy).key r = k := by
    simp only [traffic, hpolicy, policyOf_login, Option.getD_some]
    rw [identifierOf_anonymous (hanonymous r hmem haddress hpolicy),
      hfirst r hmem haddress hpolicy]
  rw [Bool.and_eq_true, decide_eq_true_eq]
  exact ⟨⟨hkey, hfrom, hto⟩, hlimited⟩

namespace Sample

/-- Eleven logins from one address at one moment, with the given headers. -/
def logins (header : Nat → Option String) : List ClientRequest :=
  (List.range 11).map fun n =>
    { arrival := 0, address := "203.0.113.9", policyName := "login", xForwardedFor := header n,
      authorization := none }

/-- A different address each time. -/
def forged (n : Nat) : Option String := some ("198.51.100." ++ String.ofList (Nat.toDigits 10 n))

end Sample

theorem logins_without_header_throttled :
    ((throttle (fun _ _ => none) "10.0.0.2" (fun _ => none) (Sample.logins fun _ => none)).countP
      fun r => decide (LoginDuring "203.0.113.9" 0 r)) ≤ 10 := by
  refine login_throttled_of_same_forwarded _ _ _ _ _ "203.0.113.9" ?_ ?_ ?_ 0
  · decide
  · intro r hr _ _ _
    rfl
  · decide

/-- All eleven of them pass when each names another address in the header. -/
theorem logins_with_forged_header_pass :
    (∀ r ∈ Sample.logins Sample.forged, r.address = "203.0.113.9" ∧
      r.policyName = loginPolicy.name ∧ r.Anonymous fun _ _ => none) ∧
    2 * loginPolicy.limit <
      (throttle (fun _ _ => none) "10.0.0.2" (fun _ => none)
        (Sample.logins Sample.forged)).countP fun r => decide (LoginDuring "203.0.113.9" 0 r) := by
  constructor
  · intro r hr
    obtain ⟨n, -, rfl⟩ := List.mem_map.1 hr
    exact ⟨rfl, rfl, fun _ => rfl⟩
  · decide +kernel

end MoneyMovement
