import SocksProxy.ByteStrings

namespace SocksProxy

structure Session where
  id : Int64 := 0
  user : Bytes := []
  create_date : Bytes := []
  update_date : Bytes := []
  is_active : Int8 := 0
  src_addr : Bytes := []
  src_port : Bytes := []
  dst_addr : Bytes := []
  dst_port : Bytes := []
  bytes_sent : Int64 := 0
  bytes_recv : Int64 := 0
  deriving DecidableEq

inductive Dest
  | toServer
  | toClient
  deriving DecidableEq

end SocksProxy
