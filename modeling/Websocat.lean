import Websocat.ReadDebt
import Websocat.WsReader
import Websocat.Peer
import Websocat.SpecifierInfo
import Websocat.Specifier
import Websocat.Session
import Websocat.Serve
import Websocat.Listener
