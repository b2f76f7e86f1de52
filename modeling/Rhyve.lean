import Rhyve.Paging.Range
import Rhyve.Boot.TwoStage
import Rhyve.Device.Ansi
import Rhyve.Vcpu.Stream
import Rhyve.Vcpu.Lifecycle
import Rhyve.Vcpu.Shared
import Rhyve.Backend.Equivalence
import Rhyve.Backend.Injection
import Rhyve.Backend.Delivery
import Rhyve.Backend.XsaveArea
import Rhyve.Backend.GuestContext
import Rhyve.Backend.PortInput
import Rhyve.Backend.MsrFile
import Rhyve.Svm.Control
import Rhyve.Svm.Permission
import Rhyve.Svm.Periodic
import Rhyve.Svm.SaveArea
import Rhyve.Svm.Consistency
import Rhyve.Vmx.Sharing
import Rhyve.Vmx.Window
import Rhyve.Vmx.HostState
import Rhyve.Service.Release
import Rhyve.Service.Upload
import Rhyve.Service.GuestSize
import Rhyve.Service.Isolation
import Rhyve.Service.Cached
import Rhyve.Service.Image
import Rhyve.Service.Vcpus
import Rhyve.Service.DeviceTree
import Rhyve.Service.Names
import Rhyve.Service.Response
import Rhyve.Service.Hypercalls
