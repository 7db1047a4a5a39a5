import Mathlib.Logic.Function.Basic
import Mathlib.Tactic.Common

set_option autoImplicit false

/- The adapters' from_env constructors. Each reads an endpoint, an API key and a timeout from
   the environment, and the Observatory and Config-Manager adapters one more number. A missing
   endpoint falls back to the adapter's local URL and a missing key to none; a number is read
   with str::parse, and a missing variable and one that does not parse both end at the default,
   since every default text parses to the value unwrap_or falls back to. The environment maps a
   variable to its value when it is set; a value that is not valid Unicode, which
   std::env::var rejects, is taken as unset. usize is 64 bits wide here, as on the targets the
   service is built for. -/
namespace AnalyticsHub.Adapters

/-- The process environment: the value of each variable that is set. -/
abbrev Env := String → Option String

/-- The value of decimal digits, most significant first. -/
def decimalValue (digits : List Char) : Nat :=
  digits.foldl (fun value digit => value * 10 + (digit.toNat - '0'.toNat)) 0

/-- str::parse for u64 (and for a 64-bit usize): an optional plus sign, then one or more ASCII
digits, whose value must stay below 2^64. -/
def parseU64 (text : String) : Option UInt64 :=
  let digits := match text.toList with
    | c :: rest => if c = '+' then rest else c :: rest
    | [] => []
  if digits ≠ [] ∧ digits.all Char.isDigit then
    if decimalValue digits < UInt64.size then some (UInt64.ofNat (decimalValue digits)) else none
  else none

/-- std::env::var(name).unwrap_or_else(|_| defaultValue.to_string()) -/
def varOr (env : Env) (name defaultValue : String) : String := (env name).getD defaultValue

/-- The same, then .parse().unwrap_or(fallback). -/
def parsedOr (env : Env) (name defaultText : String) (fallback : UInt64) : UInt64 :=
  (parseU64 (varOr env name defaultText)).getD fallback

/-- The endpoint, API key and timeout every adapter's configuration holds. -/
structure AdapterConfig where
  endpoint : String
  apiKey : Option String
  timeoutSecs : UInt64
deriving DecidableEq, Repr

/-- from_env of an adapter, given the three variables it reads and its default endpoint. -/
def AdapterConfig.fromEnv (env : Env) (endpointVar apiKeyVar timeoutVar defaultEndpoint : String) :
    AdapterConfig :=
  ⟨varOr env endpointVar defaultEndpoint, env apiKeyVar, parsedOr env timeoutVar "30" 30⟩

abbrev CostOpsConfig := AdapterConfig

abbrev MemoryGraphConfig := AdapterConfig

abbrev RegistryConfig := AdapterConfig

structure ObservatoryConfig extends AdapterConfig where
  batchSize : UInt64
deriving DecidableEq, Repr

structure ConfigManagerConfig extends AdapterConfig where
  cacheTtlSecs : UInt64
deriving DecidableEq, Repr

def CostOpsConfig.fromEnv (env : Env) : CostOpsConfig :=
  AdapterConfig.fromEnv env "COSTOPS_ENDPOINT" "COSTOPS_API_KEY" "COSTOPS_TIMEOUT_SECS"
    "http://localhost:8082"

def MemoryGraphConfig.fromEnv (env : Env) : MemoryGraphConfig :=
  AdapterConfig.fromEnv env "MEMORY_GRAPH_ENDPOINT" "MEMORY_GRAPH_API_KEY" "MEMORY_GRAPH_TIMEOUT_SECS"
    "http://localhost:8083"

def RegistryConfig.fromEnv (env : Env) : RegistryConfig :=
  AdapterConfig.fromEnv env "REGISTRY_ENDPOINT" "REGISTRY_API_KEY" "REGISTRY_TIMEOUT_SECS"
    "http://localhost:8084"

def ObservatoryConfig.fromEnv (env : Env) : ObservatoryConfig :=
  ⟨AdapterConfig.fromEnv env "OBSERVATORY_ENDPOINT" "OBSERVATORY_API_KEY" "OBSERVATORY_TIMEOUT_SECS"
    "http://localhost:8081", parsedOr env "OBSERVATORY_BATCH_SIZE" "100" 100⟩

def ConfigManagerConfig.fromEnv (env : Env) : ConfigManagerConfig :=
  ⟨AdapterConfig.fromEnv env "CONFIG_MANAGER_ENDPOINT" "CONFIG_MANAGER_API_KEY"
    "CONFIG_MANAGER_TIMEOUT_SECS" "http://localhost:8085",
    parsedOr env "CONFIG_MANAGER_CACHE_TTL_SECS" "300" 300⟩

/-! Printing a number in decimal and parsing it back. -/

theorem digit_char_value (d : Nat) (small : d < 10) :
    (Nat.digitChar d).toNat - '0'.toNat = d ∧ (Nat.digitChar d).isDigit = true := by
  have table : ∀ d, d < 10 → (Nat.digitChar d).toNat - '0'.toNat = d ∧
      (Nat.digitChar d).isDigit = true := by decide
  exact table d small

theorem to_digits_core_succ (fuel n : Nat) (digits : List Char) :
    Nat.toDigitsCore 10 (fuel + 1) n digits =
      if n / 10 = 0 then Nat.digitChar (n % 10) :: digits
      else Nat.toDigitsCore 10 fuel (n / 10) (Nat.digitChar (n % 10) :: digits) := rfl

theorem to_digits_core_append (fuel n : Nat) (digits : List Char) :
    Nat.toDigitsCore 10 fuel n digits = Nat.toDigitsCore 10 fuel n [] ++ digits := by
  induction fuel generalizing n digits with
  | zero => rfl
  | succ fuel ih =>
      rw [to_digits_core_succ, to_digits_core_succ]
      split_ifs
      · rfl
      · rw [ih _ (_ :: digits), ih _ [_], List.append_assoc, List.singleton_append]

theorem decimal_value_concat (digits : List Char) (digit : Char) :
    decimalValue (digits ++ [digit]) = decimalValue digits * 10 + (digit.toNat - '0'.toNat) := by
  simp [decimalValue]

theorem to_digits_core_digits (fuel n : Nat) (enough : n < fuel) :
    Nat.toDigitsCore 10 fuel n [] ≠ [] ∧ (Nat.toDigitsCore 10 fuel n []).all Char.isDigit ∧
      decimalValue (Nat.toDigitsCore 10 fuel n []) = n := by
  induction fuel generalizing n with
  | zero => omega
  | succ fuel ih =>
      obtain ⟨value, isDigit⟩ := digit_char_value (n % 10) (Nat.mod_lt n (by decide))
      rw [to_digits_core_succ]
      split_ifs with last
      · refine ⟨List.cons_ne_nil _ _, by simp [isDigit], ?_⟩
        show 0 * 10 + ((Nat.digitChar (n % 10)).toNat - '0'.toNat) = n
        rw [value]
        omega
      · obtain ⟨-, digits, higher⟩ := ih (n / 10) (by omega)
        rw [to_digits_core_append, decimal_value_concat, higher, value]
        exact ⟨by simp, by simp [digits, isDigit], by omega⟩

theorem parse_u64_to_string (n : UInt64) : parseU64 (toString n) = some n := by
  have printed : (toString n).toList = Nat.toDigitsCore 10 (n.toNat + 1) n.toNat [] := rfl
  obtain ⟨nonempty, digits, value⟩ := to_digits_core_digits (n.toNat + 1) n.toNat (by omega)
  generalize Nat.toDigitsCore 10 (n.toNat + 1) n.toNat [] = chars at printed nonempty digits value
  obtain ⟨c, rest, rfl⟩ := List.exists_cons_of_ne_nil nonempty
  have unsigned : c ≠ '+' := by
    rintro rfl
    simp at digits
  simp only [parseU64, printed, if_neg unsigned]
  rw [if_pos ⟨nonempty, digits⟩, value, if_pos (UInt64.toNat_lt_size n)]
  exact congrArg some (UInt64.eq_of_val_eq (by simp [UInt64.ofNat, UInt64.toNat]))

example : parseU64 "+42" = some 42 ∧ parseU64 "30s" = none ∧ parseU64 "-1" = none ∧
    parseU64 "" = none ∧ parseU64 "18446744073709551616" = none := by decide

/-! Writing a configuration to the environment. -/

/-- The environment with an adapter's settings written to its three variables, the key unset
when there is none, and every other variable as in env. -/
def AdapterConfig.write (c : AdapterConfig) (env : Env) (endpointVar apiKeyVar timeoutVar : String) : Env :=
  Function.update (Function.update (Function.update env endpointVar (some c.endpoint)) apiKeyVar c.apiKey)
    timeoutVar (some (toString c.timeoutSecs))

def CostOpsConfig.toEnv (c : CostOpsConfig) (env : Env) : Env :=
  c.write env "COSTOPS_ENDPOINT" "COSTOPS_API_KEY" "COSTOPS_TIMEOUT_SECS"

def MemoryGraphConfig.toEnv (c : MemoryGraphConfig) (env : Env) : Env :=
  c.write env "MEMORY_GRAPH_ENDPOINT" "MEMORY_GRAPH_API_KEY" "MEMORY_GRAPH_TIMEOUT_SECS"

def RegistryConfig.toEnv (c : RegistryConfig) (env : Env) : Env :=
  c.write env "REGISTRY_ENDPOINT" "REGISTRY_API_KEY" "REGISTRY_TIMEOUT_SECS"

def ObservatoryConfig.toEnv (c : ObservatoryConfig) (env : Env) : Env :=
  Function.update (c.write env "OBSERVATORY_ENDPOINT" "OBSERVATORY_API_KEY" "OBSERVATORY_TIMEOUT_SECS")
    "OBSERVATORY_BATCH_SIZE" (some (toString c.batchSize))

def ConfigManagerConfig.toEnv (c : ConfigManagerConfig) (env : Env) : Env :=
  Function.update (c.write env "CONFIG_MANAGER_ENDPOINT" "CONFIG_MANAGER_API_KEY"
    "CONFIG_MANAGER_TIMEOUT_SECS") "CONFIG_MANAGER_CACHE_TTL_SECS" (some (toString c.cacheTtlSecs))

theorem AdapterConfig.from_env_write (c : AdapterConfig) (env : Env)
    (endpointVar apiKeyVar timeoutVar defaultEndpoint : String)
    (endpointKey : endpointVar ≠ apiKeyVar) (endpointTimeout : endpointVar ≠ timeoutVar)
    (keyTimeout : apiKeyVar ≠ timeoutVar) :
    AdapterConfig.fromEnv (c.write env endpointVar apiKeyVar timeoutVar) endpointVar apiKeyVar
      timeoutVar defaultEndpoint = c := by
  simp [fromEnv, write, varOr, parsedOr, Function.update_noteq endpointKey,
    Function.update_noteq endpointTimeout, Function.update_noteq keyTimeout, parse_u64_to_string]

theorem AdapterConfig.from_env_update (env : Env) (endpointVar apiKeyVar timeoutVar defaultEndpoint : String)
    (name : String) (value : Option String) (unread : name ≠ endpointVar ∧ name ≠ apiKeyVar ∧ name ≠ timeoutVar) :
    AdapterConfig.fromEnv (Function.update env name value) endpointVar apiKeyVar timeoutVar defaultEndpoint =
      AdapterConfig.fromEnv env endpointVar apiKeyVar timeoutVar defaultEndpoint := by
  simp [fromEnv, varOr, parsedOr, Function.update_noteq (Ne.symm unread.1),
    Function.update_noteq (Ne.symm unread.2.1), Function.update_noteq (Ne.symm unread.2.2)]

theorem AdapterConfig.from_env_write_update (c : AdapterConfig) (env : Env)
    (endpointVar apiKeyVar timeoutVar defaultEndpoint : String)
    (endpointKey : endpointVar ≠ apiKeyVar) (endpointTimeout : endpointVar ≠ timeoutVar)
    (keyTimeout : apiKeyVar ≠ timeoutVar) (name : String) (value : Option String)
    (unread : name ≠ endpointVar ∧ name ≠ apiKeyVar ∧ name ≠ timeoutVar) :
    AdapterConfig.fromEnv (Function.update (c.write env endpointVar apiKeyVar timeoutVar) name value)
      endpointVar apiKeyVar timeoutVar defaultEndpoint = c := by
  rw [from_env_update _ _ _ _ _ _ _ unread, from_env_write _ _ _ _ _ _ endpointKey endpointTimeout keyTimeout]

/-- Every adapter's from_env reads back any configuration written to the environment with
toString, whatever else the environment holds: each endpoint, API key (set or not) and number
survives the trip through its variable. -/
theorem adapter_configs_round_trip (env : Env) (observatory : ObservatoryConfig)
    (costOps : CostOpsConfig) (memoryGraph : MemoryGraphConfig) (registry : RegistryConfig)
    (configManager : ConfigManagerConfig) :
    ObservatoryConfig.fromEnv (ObservatoryConfig.toEnv observatory env) = observatory ∧
    CostOpsConfig.fromEnv (CostOpsConfig.toEnv costOps env) = costOps ∧
    MemoryGraphConfig.fromEnv (MemoryGraphConfig.toEnv memoryGraph env) = memoryGraph ∧
    RegistryConfig.fromEnv (RegistryConfig.toEnv registry env) = registry ∧
    ConfigManagerConfig.fromEnv (ConfigManagerConfig.toEnv configManager env) = configManager := by
  refine ⟨?_, AdapterConfig.from_env_write _ _ _ _ _ _ (by decide) (by decide) (by decide),
    AdapterConfig.from_env_write _ _ _ _ _ _ (by decide) (by decide) (by decide),
    AdapterConfig.from_env_write _ _ _ _ _ _ (by decide) (by decide) (by decide), ?_⟩
  · cases observatory
    simp only [ObservatoryConfig.fromEnv, ObservatoryConfig.toEnv, parsedOr, varOr,
      Function.update_same, Option.getD_some, parse_u64_to_string]
    rw [AdapterConfig.from_env_write_update] <;> decide
  · cases configManager
    simp only [ConfigManagerConfig.fromEnv, ConfigManagerConfig.toEnv, parsedOr, varOr,
      Function.update_same, Option.getD_some, parse_u64_to_string]
    rw [AdapterConfig.from_env_write_update] <;> decide

/-! Defaults. -/

/-- A numeric setting as the code means it: the variable's value if it is set and parses as a
u64, and the default otherwise. -/
def setting (env : Env) (name : String) (defaultValue : UInt64) : UInt64 :=
  ((env name).bind parseU64).getD defaultValue

theorem parsed_or_setting (env : Env) (name defaultText : String) (fallback : UInt64)
    (parses : parseU64 defaultText = some fallback) :
    parsedOr env name defaultText fallback = setting env name fallback := by
  cases set : env name <;> simp [parsedOr, varOr, setting, set, parses]

theorem adapter_numeric_settings (env : Env) :
    (ObservatoryConfig.fromEnv env).timeoutSecs = setting env "OBSERVATORY_TIMEOUT_SECS" 30 ∧
    (ObservatoryConfig.fromEnv env).batchSize = setting env "OBSERVATORY_BATCH_SIZE" 100 ∧
    (CostOpsConfig.fromEnv env).timeoutSecs = setting env "COSTOPS_TIMEOUT_SECS" 30 ∧
    (MemoryGraphConfig.fromEnv env).timeoutSecs = setting env "MEMORY_GRAPH_TIMEOUT_SECS" 30 ∧
    (RegistryConfig.fromEnv env).timeoutSecs = setting env "REGISTRY_TIMEOUT_SECS" 30 ∧
    (ConfigManagerConfig.fromEnv env).timeoutSecs = setting env "CONFIG_MANAGER_TIMEOUT_SECS" 30 ∧
    (ConfigManagerConfig.fromEnv env).cacheTtlSecs = setting env "CONFIG_MANAGER_CACHE_TTL_SECS" 300 := by
  have thirty : parseU64 "30" = some 30 := by decide
  have hundred : parseU64 "100" = some 100 := by decide
  have threeHundred : parseU64 "300" = some 300 := by decide
  exact ⟨parsed_or_setting _ _ _ _ thirty, parsed_or_setting _ _ _ _ hundred,
    parsed_or_setting _ _ _ _ thirty, parsed_or_setting _ _ _ _ thirty,
    parsed_or_setting _ _ _ _ thirty, parsed_or_setting _ _ _ _ thirty,
    parsed_or_setting _ _ _ _ threeHundred⟩

end AnalyticsHub.Adapters
