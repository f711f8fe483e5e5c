import ArchitectureCourse.Json
import ArchitectureCourse.CppInt
import ArchitectureCourse.Support.Maps
import ArchitectureCourse.Support.Decimal
import ArchitectureCourse.Support.Workers
import ArchitectureCourse.JsonRpc.Registry
import ArchitectureCourse.JsonRpc.Dispatch
import ArchitectureCourse.JsonRpc.Connection
import ArchitectureCourse.JsonRpc.SecretData
import ArchitectureCourse.Ecommerce.Storage
import ArchitectureCourse.Ecommerce.Links
import ArchitectureCourse.Ecommerce.Service
import ArchitectureCourse.Ecommerce.Concurrent
import ArchitectureCourse.Library.Database
import ArchitectureCourse.Library.Rest
import ArchitectureCourse.Library.Concurrent
import ArchitectureCourse.Tasks.TaskManager
import ArchitectureCourse.Tasks.Persistence
import ArchitectureCourse.Tasks.UpdateRace
import ArchitectureCourse.Tasks.Soap
import ArchitectureCourse.Tasks.Session
