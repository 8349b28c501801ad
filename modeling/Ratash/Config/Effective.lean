import Ratash.Domain

namespace Ratash

def effectiveConfigurationMaxBytes : Nat := 64 * 1024 * 1024
def profileResponseMaxBytes : Nat := 16 * 1024 * 1024

inductive ProviderSection where
  | proxy
  | rule
deriving DecidableEq

def ProviderSection.directory : ProviderSection → String
  | .proxy => "proxy"
  | .rule => "rule"

inductive ProviderKind where
  | remote (url : String)
  | localFile (source : Path)
deriving DecidableEq

structure ProviderRecord where
  providerSection : ProviderSection
  name : String
  relativePath : Path
  kind : ProviderKind
deriving DecidableEq

structure EffectiveConfiguration where
  yaml : Bytes
  compilerPolicySha256 : String
  coreVersion : String
  providers : List ProviderRecord
deriving DecidableEq

end Ratash
