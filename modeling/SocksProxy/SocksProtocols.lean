import SocksProxy.SessionSockets
import SocksProxy.AddressText

namespace SocksProxy

open StatefulPrograms AddressText ByteStrings

inductive AuthStatus
  | success
  | deny
  deriving DecidableEq

def AuthStatus.code : AuthStatus → UInt8
  | .success => 0
  | .deny => 1

inductive Cmd
  | connect
  | bind
  | udpAssociate
  deriving DecidableEq

def Cmd.code : Cmd → UInt8
  | .connect => 1
  | .bind => 2
  | .udpAssociate => 3

def rsv : UInt8 := 0

namespace Socks

def checkError (ec : Option ErrorCode) : Bool := ec.isSome

def hasUser (e : Env) (tag value : Bytes) : Bool := e.users.lookup tag == some value

def checkVersion (ver : Ver) : Handshake Bool := do
  let (b, ec) ← TcpSession.readByte
  if checkError ec then return false
  if b ≠ ver.code then return false
  return true

def readPort : Handshake Bool := do
  let (high, ec) ← TcpSession.readByte
  Proc.modify fun s => s.withSocks { s.socks with dstPort := high.toUInt16 }
  if checkError ec then return false
  let (low, ec) ← TcpSession.readByte
  Proc.modify fun s => s.withSocks
    { s.socks with dstPort := (s.socks.dstPort <<< 8) ||| low.toUInt16 }
  if checkError ec then return false
  return true

def readIPV4 : Handshake Bytes := do
  let (dstAdd, ec) ← TcpSession.readBytes 4
  if checkError ec then return []
  return formIpAddressString dstAdd

def service (port : UInt16) : Bytes := decimal port.toNat

/-- The record of a session; the two source fields come from two queries of the client socket. -/
def newSession (socks : Socks) (addr port : Endpoint) : Session where
  user := socks.username
  src_addr := addr.address
  src_port := service port.port
  dst_addr := socks.dstAddress
  dst_port := service socks.dstPort

def createRecord (e : Env) : Handshake Bool := do
  let addr ← TcpSession.query e .clientRemote
  let port ← TcpSession.query e .clientRemote
  let socks ← Proc.read SessionState.socks
  let record := newSession socks addr port
  TcpSession.emit (.create record (e.create record))
  match e.create record with
  | none => return false
  | some id =>
    Proc.modify fun s => s.withSocks { s.socks with id := id }
    return true

end Socks

namespace Socks4

inductive Reply
  | granted
  | rejected
  deriving DecidableEq

def Reply.code : Reply → UInt8
  | .granted => 90
  | .rejected => 91

def readUserId : ℕ → Bytes → Handshake (Bytes × Option ErrorCode)
  | 0, userid => pure (userid, none)
  | fuel + 1, userid => do
    let (c, ec) ← TcpSession.readByte
    if c ≠ 0 ∧ ec.isNone then readUserId fuel (userid ++ [c])
    else return (userid, ec)

def init (e : Env) : Handshake Bool := do
  let (method, _) ← TcpSession.readByte
  if method ≠ Cmd.connect.code then return false
  let _ ← Socks.readPort
  let address ← Socks.readIPV4
  Proc.modify fun s => s.withSocks { s.socks with dstAddress := address }
  if address.length = 0 then return false
  -- one pass for each byte left and one for the failing read
  let fuel ← Proc.read fun s => s.input.length + 1
  let (userid, ec) ← readUserId fuel []
  if Socks.checkError ec then return false
  Proc.modify fun s => s.withSocks { s.socks with username := to_string userid }
  let socks ← Proc.read SessionState.socks
  let (port, ec) ← TcpSession.connect e socks.dstAddress (Socks.service socks.dstPort)
  Proc.modify fun s => s.withSocks { s.socks with bindPort := port }
  let code := if ec.isSome then Reply.rejected.code else Reply.granted.code
  let ec ← TcpSession.writeBytes e [0, code, 0, 0, 0, 0, 0, 0]
  if Socks.checkError ec || code == Reply.rejected.code then return false
  let _ ← Socks.createRecord e
  return true

end Socks4

namespace Socks5

def authVer : UInt8 := 1

inductive Method
  | noAuthReq
  | usernamePassword
  | noAccMethods
  deriving DecidableEq

def Method.code : Method → UInt8
  | .noAuthReq => 0
  | .usernamePassword => 2
  | .noAccMethods => 255

inductive Atyp
  | ipv4
  | domainName
  | ipv6
  deriving DecidableEq

def Atyp.code : Atyp → UInt8
  | .ipv4 => 1
  | .domainName => 3
  | .ipv6 => 4

inductive Rep
  | succeeded
  | serverFailure
  | connNotAllowed
  | networkUnreach
  | hostUnreachable
  | connectionRefused
  | ttlExpired
  | commandNotSupp
  | addrTypeNotSupp
  deriving DecidableEq

def Rep.code : Rep → UInt8
  | .succeeded => 0
  | .serverFailure => 1
  | .connNotAllowed => 2
  | .networkUnreach => 3
  | .hostUnreachable => 4
  | .connectionRefused => 5
  | .ttlExpired => 6
  | .commandNotSupp => 7
  | .addrTypeNotSupp => 8

def getServerMethod (e : Env) : Method :=
  if e.authFlag then .usernamePassword else .noAuthReq

def errorResponse (responseCode : Rep) : Bytes :=
  [Ver.socks5.code, responseCode.code, rsv, Atyp.ipv4.code, 0, 0, 0, 0, 0, 0]

def sendErrorResponse (e : Env) (responseCode : Rep) : Handshake Unit := do
  let _ ← TcpSession.writeBytes e (errorResponse responseCode)

def checkMethod (e : Env) : Handshake Bool := do
  let (nMethods, ec) ← TcpSession.readByte
  if Socks.checkError ec then return false
  let (methods, ec) ← TcpSession.readBytes nMethods.toNat
  if Socks.checkError ec then return false
  return methods.contains (getServerMethod e).code

/-- True when the write failed, as in the source. -/
def sendMethodResponse (e : Env) (method : Method) : Handshake Bool := do
  let ec ← TcpSession.writeBytes e [Ver.socks5.code, method.code]
  return ec.isSome

def readMethodRequest (e : Env) : Handshake Bool := do
  if !(← checkMethod e) then
    let _ ← sendMethodResponse e .noAccMethods
    return false
  return !(← sendMethodResponse e (getServerMethod e))

def auth (e : Env) : Handshake Bool := do
  let (ver, ec) ← TcpSession.readByte
  if Socks.checkError ec || ver != authVer then return false
  let (ulen, ec) ← TcpSession.readByte
  if Socks.checkError ec || ulen == 0 then return false
  let (uname, ec) ← TcpSession.readBytes ulen.toNat
  if Socks.checkError ec then return false
  let (plen, ec) ← TcpSession.readByte
  if Socks.checkError ec then return false
  let (passwd, ec) ← TcpSession.readBytes plen.toNat
  if Socks.checkError ec then return false
  Proc.modify fun s => s.withSocks { s.socks with username := to_string uname }
  let success := Socks.hasUser e (to_string uname) (to_string passwd)
  let status := if success then AuthStatus.success else AuthStatus.deny
  let ec ← TcpSession.writeBytes e [authVer, status.code]
  if Socks.checkError ec then return false
  return success

def readAddress (e : Env) (atyp : UInt8) : Handshake Bytes := do
  if atyp = Atyp.ipv4.code then
    Socks.readIPV4
  else if atyp = Atyp.domainName.code then
    let (addSize, ec) ← TcpSession.readByte
    if Socks.checkError ec then return []
    let (dstAdd, ec) ← TcpSession.readBytes addSize.toNat
    if Socks.checkError ec then return []
    return to_string dstAdd
  else if atyp = Atyp.ipv6.code then
    let (dstAdd, ec) ← TcpSession.readBytes 16
    if Socks.checkError ec then return []
    return formIpAddressString dstAdd
  else
    sendErrorResponse e .addrTypeNotSupp
    return []

def readCommandRequest (e : Env) : Handshake Bool := do
  if !(← Socks.checkVersion .socks5) then
    sendErrorResponse e .serverFailure
    return false
  let (cmd, ec) ← TcpSession.readByte
  Proc.modify fun s => s.withSocks { s.socks with cmd := cmd }
  if Socks.checkError ec then return false
  let (_, ec) ← TcpSession.readByte
  if Socks.checkError ec then return false
  let (atyp, ec) ← TcpSession.readByte
  Proc.modify fun s => s.withSocks { s.socks with atyp := atyp }
  if Socks.checkError ec then return false
  let address ← readAddress e atyp
  Proc.modify fun s => s.withSocks { s.socks with dstAddress := address }
  if address.length = 0 then return false
  Socks.readPort

/-- The success reply; the high port byte is computed as `(bindPort & 0xFF) >> 8`. -/
def commandResponse (atyp : UInt8) (bindPort : UInt16) : Bytes :=
  [Ver.socks5.code, Rep.succeeded.code, rsv] ++
    (if atyp = Atyp.ipv4.code ∨ atyp = Atyp.domainName.code then
      [Atyp.ipv4.code, 0, 0, 0, 0]
    else if atyp = Atyp.ipv6.code then
      Atyp.ipv6.code :: List.replicate 16 0
    else []) ++
    [((bindPort &&& 0xFF) >>> 8).toUInt8, (bindPort &&& 0x00FF).toUInt8]

def sendCommandResponse (e : Env) (bindPort : UInt16) : Handshake Bool := do
  let socks ← Proc.read SessionState.socks
  let ec ← TcpSession.writeBytes e (commandResponse socks.atyp bindPort)
  if Socks.checkError ec then return false
  return true

def replyFor : Option ErrorCode → Rep
  | some .hostNotFound => .hostUnreachable
  | some .hostUnreachable => .hostUnreachable
  | some .connectionAborted => .connNotAllowed
  | some .connectionRefused => .connectionRefused
  | some .timedOut => .ttlExpired
  | some .networkUnreachable => .networkUnreach
  | some _ => .serverFailure
  | none => .succeeded

def connect (e : Env) (host service : Bytes) : Handshake Bool := do
  let (port, ec) ← TcpSession.connect e host service
  Proc.modify fun s => s.withSocks { s.socks with bindPort := port }
  if replyFor ec = .succeeded then
    let _ ← sendCommandResponse e port
    return true
  else
    sendErrorResponse e (replyFor ec)
    return false

def init (e : Env) : Handshake Bool := do
  if !(← readMethodRequest e) then return false
  if e.authFlag then
    if !(← auth e) then return false
  if !(← readCommandRequest e) then return false
  let socks ← Proc.read SessionState.socks
  if socks.cmd = Cmd.connect.code then
    if !(← connect e socks.dstAddress (Socks.service socks.dstPort)) then return false
  else if socks.cmd = Cmd.bind.code then
    sendErrorResponse e .commandNotSupp
    return false
  else if socks.cmd = Cmd.udpAssociate.code then
    sendErrorResponse e .commandNotSupp
    return false
  else
    sendErrorResponse e .commandNotSupp
    return false
  let _ ← Socks.createRecord e
  return true

end Socks5

namespace TcpSession

def createProxy : Handshake Bool := do
  let (socks_ver, ec) ← readByte
  if ec.isSome then return false
  if socks_ver = Ver.socks5.code then
    Proc.modify fun s => { s with proxy := some .socks5 }
    return true
  else if socks_ver = Ver.socks4.code then
    Proc.modify fun s => { s with proxy := some .socks4 }
    return true
  else return false

def initProxy (e : Env) : Handshake Bool := do
  match ← Proc.read SessionState.proxy with
  | some .socks5 => Socks5.init e
  | some .socks4 => Socks4.init e
  | none => return false

def startBody (e : Env) : Handshake Unit := do
  let _ ← query e .clientRemote
  let _ ← query e .clientRemote
  if ← createProxy then
    if ← initProxy e then
      Proc.modify fun s => { s with id := s.socks.id }
      let _ ← query e .clientRemote
      let _ ← query e .clientRemote
      let _ ← query e .serverRemote
      let _ ← query e .serverRemote
      emit .clientRead
      emit .serverRead

def start (e : Env) : Handshake Unit := Proc.catchAll (startBody e) fun _ => pure ()

end TcpSession

end SocksProxy
