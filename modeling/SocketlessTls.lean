import SocketlessTls.Bench.Scenario
import SocketlessTls.Proofs.Classification
import SocketlessTls.Proofs.Config.ProtocolLimit
import SocketlessTls.Proofs.Config.VersionName
import SocketlessTls.Proofs.Connection.CaptureMode
import SocketlessTls.Proofs.Connection.CertificateRequest
import SocketlessTls.Proofs.Connection.EarlyWindow
import SocketlessTls.Proofs.Connection.Reading
import SocketlessTls.Proofs.Connection.Release
import SocketlessTls.Proofs.Connection.Startup
import SocketlessTls.Proofs.Pipe.Delivery
import SocketlessTls.Proofs.Pipe.Interference
import SocketlessTls.Proofs.Session.Fleet
import SocketlessTls.Proofs.X509.AltNames
import SocketlessTls.Proofs.X509.OneLine
