import Grouproxy.Model.Bundle

/-! # The backend's bundle signature -/

namespace Grouproxy.Crypto

open Value Encoding Grouproxy.Bundle

/-- A Python dictionary from text to JSON values. The order of its items is never
observed: `canonicalJson` sorts them. -/
abbrev Dict := List (String × Json)

/-- `d[key] = value`. -/
def Dict.set (d : Dict) (key : String) (value : Json) : Dict :=
  (key, value) :: d.filter fun f => f.1 ≠ key

def canonicalJson (value : Json) : ByteArray := textBytes (dumps value)

def bundleHashInput (bundle : Dict) : Dict :=
  bundle.filter fun f => f.1 ∉ ["bundle_hash", "mac"]

def calculateBundleHash (h : Hashes) (bundle : Dict) : String :=
  hexdigest (h.sha256 (canonicalJson (.obj (bundleHashInput bundle))))

def unsignedMac (signed : Dict) : Dict := signed.filter fun f => f.1 ∉ ["mac"]

def signBundle (h : Hashes) (bundle : Dict) (secret : String) : Dict :=
  let signed := Dict.set bundle "bundle_hash" (.str (calculateBundleHash h bundle))
  let mac := hexdigest (h.hmacSha256 secret.toUTF8 (canonicalJson (.obj (unsignedMac signed))))
  Dict.set signed "mac" (.str mac)

end Grouproxy.Crypto
