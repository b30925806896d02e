import StoreClient.Duration

/-!
# Settings of a token cache
-/

namespace StoreClient.Credentials

/-- The part of a token's lifetime before its end in which it is no longer served, when nothing else
is set: a fifth. -/
def defaultRefreshBuffer : Binary64 := .ofDecimal false ⟨2, -1⟩

/-- The lifetime of tokens requested without one: fifteen minutes. -/
def defaultTokenDuration : Duration := .ofSeconds 900

/-- How a cache treats its tokens. -/
structure Settings where
  /-- The part of a token's lifetime before its end in which it is no longer served. -/
  refreshBuffer : Binary64 := defaultRefreshBuffer
  /-- The lifetime of tokens requested without one. -/
  defaultDuration : Duration := defaultTokenDuration
deriving DecidableEq, Repr

namespace Settings

instance : Inhabited Settings := ⟨{}⟩

/-- The settings with a finite refresh buffer: the default one in place of any other. -/
def usable (s : Settings) : Settings :=
  if s.refreshBuffer.isFinite then s else { s with refreshBuffer := defaultRefreshBuffer }

/-- Whether the settings equal the default ones, as numbers. -/
def isDefault (s : Settings) : Bool :=
  s.refreshBuffer.equals defaultRefreshBuffer && s.defaultDuration == defaultTokenDuration

/-- The fields of the settings as text for diagnostics. -/
def fields (s : Settings) : String :=
  let buffer := Binary64.Layout.diagnostic.write s.refreshBuffer
  s!"refresh_buffer: {buffer}, default_token_duration: {s.defaultDuration}"

/-- The settings as one line of text for diagnostics. -/
def describe (s : Settings) : String := s!"TokenCacheSettings \x7b {s.fields} \x7d"

end Settings

end StoreClient.Credentials
