import AirVpn.Model.Properties

/-! # Requests to the configuration generator

The parameters of a request and its URL, from `nm-airvpn-api.c`, and how the
service takes the parameters from a setting.
-/

namespace AirVpn

/-- A missing item is `none`; the generator's defaults apply to it. -/
structure NMAirvpnGeneratorParams where
  server : Option String
  device : Option String
  protocol : Option String
  port : Option String
  customDirectives : Option String
  deriving DecidableEq, Repr

def getGeneratorParams (s : NMSettingVpn) : NMAirvpnGeneratorParams where
  server := s.getDataItem keyServer
  device := s.getDataItem keyDevice
  protocol := s.getDataItem keyProtocol
  port := s.getDataItem keyPort
  customDirectives := s.getDataItem keyCustomDirectives

/-! ## `curl_easy_escape` -/

def isUnreserved (b : UInt8) : Bool :=
  (48 ≤ b && b ≤ 57) || (65 ≤ b && b ≤ 90) || (97 ≤ b && b ≤ 122) ||
    b = 45 || b = 46 || b = 95 || b = 126

def hexDigit (n : Nat) : Char := Char.ofNat (if n < 10 then 48 + n else 55 + n)

def percentEncode (b : UInt8) : List Char :=
  if isUnreserved b then [Char.ofNat b.toNat]
  else ['%', hexDigit (b.toNat / 16), hexDigit (b.toNat % 16)]

/-- Every byte outside the unreserved set becomes `%XX`. -/
def curlEasyEscape (s : String) : List Char := s.toUTF8.data.toList.flatMap percentEncode

/-! ## The generator URL -/

def airvpnGeneratorUrl : String := "https://airvpn.org/api/generator/"

/-- `&name=<escaped value>` for a value that is set and not empty. -/
def optionalParam (name : String) (value : Option String) : List Char :=
  match nonEmpty value with
  | none => []
  | some v => name.toList ++ curlEasyEscape v

/-- `protocol` and `port` are pasted as they are, the other values escaped. The
callers guarantee a server. -/
def buildGeneratorUrl (params : NMAirvpnGeneratorParams) : List Char :=
  let protocol := (nonEmpty params.protocol).getD protocolUdp
  let port := (nonEmpty params.port).getD defaultPort
  airvpnGeneratorUrl.toList ++ "?system=linux&download=auto".toList ++
    "&protocols=openvpn_3_".toList ++ protocol.toList ++ "_".toList ++ port.toList ++
    "&servers=".toList ++ curlEasyEscape (orEmpty params.server) ++
    optionalParam "&device=" params.device ++
    optionalParam "&openvpn_directives=" params.customDirectives

end AirVpn
